import SensorGateway.Proofs.Json.Numeral
import SensorGateway.Proofs.Json.Tree

/-!
Numbers are scanned by the grammar. A number that is written down is scanned to its parts,
provided that what follows could not go on it; and whatever is scanned was written down as a
number. Each part of a number has these two lemmas.
-/

namespace SensorGateway.Json

namespace Numeral

/-! ### Digits -/

theorem scanDigits_written (ended : Breach) (ds : Digits) {rest : List Char}
    (hrest : ∀ c ∈ rest.head?, c.isDigit = false) :
    scanDigits ended (ds.chars ++ rest) = .ok (ds.chars, rest) := by
  rw [scanDigits, digits_append ds.digits hrest]
  cases hds : ds.chars with
  | nil => exact absurd hds ds.ne_nil
  | cons d ds => rfl

theorem written_of_scanDigits {ended : Breach} {s ds rest : List Char}
    (h : scanDigits ended s = .ok (ds, rest)) :
    ∃ written : Digits, written.chars = ds ∧ s = ds ++ rest := by
  unfold scanDigits digits at h
  split at h
  · cases h
  · cases h
  · rename_i ds' rest' _ hne heq
    obtain ⟨hds, hrest⟩ := Prod.mk.inj heq
    cases h
    subst hds
    subst hrest
    exact ⟨⟨s.takeWhile Char.isDigit, hne, List.all_eq_true.1 List.all_takeWhile⟩, rfl,
      List.takeWhile_append_dropWhile.symm⟩

/-! ### The parts of a number -/

theorem scanWhole_written (ended : Breach) {whole : Digits}
    (hzero : ∀ ds, whole.chars = '0' :: ds → ds = []) {rest : List Char}
    (hrest : ∀ c ∈ rest.head?, c.isDigit = false) :
    scanWhole ended (whole.chars ++ rest) = .ok (whole.chars, rest) := by
  have hscan := scanDigits_written ended whole hrest
  unfold scanWhole
  split
  · rename_i rest' heq
    cases hwhole : whole.chars with
    | nil => exact absurd hwhole whole.ne_nil
    | cons d ds =>
        rw [hwhole, List.cons_append] at heq
        obtain ⟨rfl, hds⟩ := List.cons.inj heq
        obtain rfl := hzero ds hwhole
        obtain rfl : rest = rest' := hds
        have hnone : rest.head?.any Char.isDigit = false :=
          (Option.any_eq_false _ _).2 hrest
        simp [hnone]
  · exact hscan

theorem written_of_scanWhole {ended : Breach} {s ds rest : List Char}
    (h : scanWhole ended s = .ok (ds, rest)) :
    ∃ whole : Digits, (∀ ds', whole.chars = '0' :: ds' → ds' = []) ∧ whole.chars = ds ∧
      s = ds ++ rest := by
  unfold scanWhole at h
  split at h
  · split at h
    · cases h
    · cases h
      exact ⟨⟨['0'], by simp, by simp⟩, by simp, rfl, rfl⟩
  · rename_i hzero
    obtain ⟨whole, rfl, rfl⟩ := written_of_scanDigits h
    exact ⟨whole, fun ds' hds' => absurd (by rw [hds']; rfl) (hzero (ds' ++ rest)), rfl, rfl⟩

theorem scanFraction_written (ended : Breach) (fraction : Option Digits) {rest : List Char}
    (hrest : ∀ c ∈ rest.head?, c.isDigit = false ∧ c ≠ '.') :
    scanFraction ended (WrittenNumber.writtenFraction fraction ++ rest) =
      .ok ((fraction.map Digits.chars).getD [], rest) := by
  cases fraction with
  | some ds => exact scanDigits_written ended ds fun c hc => (hrest c hc).1
  | none =>
      unfold scanFraction
      split
      · rename_i rest' heq
        obtain rfl : rest = '.' :: rest' := heq
        exact absurd rfl (hrest '.' rfl).2
      · rfl

theorem written_of_scanFraction {ended : Breach} {s ds rest : List Char}
    (h : scanFraction ended s = .ok (ds, rest)) :
    ∃ fraction : Option Digits, (fraction.map Digits.chars).getD [] = ds ∧
      s = WrittenNumber.writtenFraction fraction ++ rest := by
  unfold scanFraction at h
  split at h
  · obtain ⟨fraction, rfl, rfl⟩ := written_of_scanDigits h
    exact ⟨some fraction, rfl, rfl⟩
  · cases h
    exact ⟨none, rfl, rfl⟩

theorem exponentSign_written (sign : Option Bool) (ds : Digits) (rest : List Char) :
    exponentSign (Exponent.writtenSign sign ++ (ds.chars ++ rest)) =
      (sign.getD false, ds.chars ++ rest) := by
  match sign with
  | some false => rfl
  | some true => rfl
  | none =>
      cases hds : ds.chars with
      | nil => exact absurd hds ds.ne_nil
      | cons d chars =>
          -- a digit is no sign
          have hd : d.isDigit = true := ds.digits d (by simp [hds])
          rw [Exponent.writtenSign, List.nil_append, List.cons_append, exponentSign]
          · rfl
          · rintro rest' heq
            obtain ⟨rfl, -⟩ := List.cons.inj heq
            exact absurd hd (by decide)
          · rintro rest' heq
            obtain ⟨rfl, -⟩ := List.cons.inj heq
            exact absurd hd (by decide)

theorem written_of_exponentSign (s : List Char) :
    ∃ sign : Option Bool, sign.getD false = (exponentSign s).1 ∧
      s = Exponent.writtenSign sign ++ (exponentSign s).2 := by
  unfold exponentSign
  split
  · exact ⟨some false, rfl, rfl⟩
  · exact ⟨some true, rfl, rfl⟩
  · exact ⟨none, rfl, rfl⟩

theorem scanExponent_written (ended : Breach) (exponent : Option Exponent) {rest : List Char}
    (hrest : ∀ c ∈ rest.head?, c.isDigit = false ∧ c ≠ 'e' ∧ c ≠ 'E') :
    scanExponent ended (WrittenNumber.writtenExponent exponent ++ rest) =
      .ok (exponent.map fun e => (e.sign.getD false, e.digits.chars), rest) := by
  cases exponent with
  | none =>
      cases rest with
      | nil => rfl
      | cons c rest => simp [WrittenNumber.writtenExponent, scanExponent, (hrest c rfl).2]
  | some e =>
      have hmark : (if e.capital then 'E' else 'e') = 'e' ∨
          (if e.capital then 'E' else 'e') = 'E' := by
        cases e.capital <;> simp
      have hscan := scanDigits_written ended e.digits fun c hc => (hrest c hc).1
      rw [WrittenNumber.writtenExponent, Exponent.written, List.cons_append, List.cons_append,
        scanExponent, if_pos hmark, List.append_assoc, exponentSign_written]
      simp only [hscan, Option.map_some]

theorem written_of_scanExponent {ended : Breach} {s rest : List Char}
    {parts : Option (Bool × List Char)} (h : scanExponent ended s = .ok (parts, rest)) :
    ∃ exponent : Option Exponent,
      (exponent.map fun e => (e.sign.getD false, e.digits.chars)) = parts ∧
        s = WrittenNumber.writtenExponent exponent ++ rest := by
  unfold scanExponent at h
  split at h
  · cases h
    exact ⟨none, rfl, rfl⟩
  · rename_i c r
    split at h
    · rename_i hmark
      split at h
      · cases h
      · rename_i ds rest' hscan
        cases h
        obtain ⟨digits, rfl, hdigits⟩ := written_of_scanDigits hscan
        obtain ⟨sign, hsign, hr⟩ := written_of_exponentSign r
        refine ⟨some ⟨decide (c = 'E'), sign, digits⟩, by rw [← hsign]; rfl, ?_⟩
        rw [hdigits] at hr
        have hc : (if decide (c = 'E') = true then 'E' else 'e') = c := by
          rcases hmark with rfl | rfl <;> rfl
        rw [WrittenNumber.writtenExponent, Exponent.written, hc, List.cons_append,
          List.cons_append, List.append_assoc, ← hr]
    · cases h
      exact ⟨none, rfl, rfl⟩

/-! ### The number -/

/-- What follows the digits of a whole part is no digit. -/
theorem head?_writtenExponent {exponent : Option Exponent} {rest : List Char}
    (hrest : EndsNumber rest) :
    ∀ c ∈ (WrittenNumber.writtenExponent exponent ++ rest).head?, c.isDigit = false ∧ c ≠ '.' := by
  intro c hc
  cases exponent with
  | none => exact ⟨(hrest c hc).1, (hrest c hc).2.1⟩
  | some e =>
      obtain rfl : (if e.capital then 'E' else 'e') = c := Option.some.inj hc
      cases e.capital <;> decide

theorem head?_writtenFraction {fraction : Option Digits} {exponent : Option Exponent}
    {rest : List Char} (hrest : EndsNumber rest) :
    ∀ c ∈ (WrittenNumber.writtenFraction fraction ++
      (WrittenNumber.writtenExponent exponent ++ rest)).head?, c.isDigit = false := by
  intro c hc
  cases fraction with
  | none => exact (head?_writtenExponent hrest c hc).1
  | some ds =>
      obtain rfl : '.' = c := Option.some.inj hc
      decide

theorem scanUnsigned_written (ended : Breach) (n : WrittenNumber) {rest : List Char}
    (hrest : EndsNumber rest) :
    scanUnsigned ended n.minus (n.whole.chars ++ (WrittenNumber.writtenFraction n.fraction ++
      (WrittenNumber.writtenExponent n.exponent ++ rest))) = .ok (n.numeral, rest) := by
  rw [scanUnsigned, scanWhole_written ended n.zero_alone (head?_writtenFraction hrest)]
  simp only [scanFraction_written ended n.fraction (head?_writtenExponent hrest),
    scanExponent_written ended n.exponent fun c hc => ⟨(hrest c hc).1, (hrest c hc).2.2⟩]
  rfl

theorem scan_written (ended : Breach) (n : WrittenNumber) {rest : List Char}
    (hrest : EndsNumber rest) : scan ended (n.written ++ rest) = .ok (n.numeral, rest) := by
  have hscan := scanUnsigned_written ended n hrest
  rw [WrittenNumber.written]
  simp only [List.append_assoc]
  cases hminus : n.minus with
  | true =>
      rw [hminus] at hscan
      exact hscan
  | false =>
      rw [hminus] at hscan
      cases hwhole : n.whole.chars with
      | nil => exact absurd hwhole n.whole.ne_nil
      | cons d ds =>
          have hd : d.isDigit = true := n.whole.digits d (by simp [hwhole])
          rw [hwhole] at hscan
          rw [if_neg Bool.false_ne_true, List.nil_append, List.cons_append, scan]
          · exact hscan
          · rintro s heq
            obtain ⟨rfl, -⟩ := List.cons.inj heq
            exact absurd hd (by decide)

theorem written_of_scanUnsigned {ended : Breach} {minus : Bool} {s rest : List Char}
    {parts : Numeral} (h : scanUnsigned ended minus s = .ok (parts, rest)) :
    ∃ n : WrittenNumber, n.numeral = parts ∧ n.minus = minus ∧
      s = n.whole.chars ++ (WrittenNumber.writtenFraction n.fraction ++
        (WrittenNumber.writtenExponent n.exponent ++ rest)) := by
  unfold scanUnsigned at h
  split at h
  · cases h
  · rename_i whole s₁ hwhole
    split at h
    · cases h
    · rename_i fraction s₂ hfraction
      split at h
      · cases h
      · rename_i exponent s₃ hexponent
        cases h
        obtain ⟨whole, hzero, rfl, rfl⟩ := written_of_scanWhole hwhole
        obtain ⟨fraction, rfl, rfl⟩ := written_of_scanFraction hfraction
        obtain ⟨exponent, rfl, rfl⟩ := written_of_scanExponent hexponent
        exact ⟨⟨minus, whole, hzero, fraction, exponent⟩, rfl, rfl, rfl⟩

theorem written_of_scan {ended : Breach} {s rest : List Char} {parts : Numeral}
    (h : scan ended s = .ok (parts, rest)) :
    ∃ n : WrittenNumber, n.numeral = parts ∧ s = n.written ++ rest := by
  unfold scan at h
  split at h
  all_goals
    obtain ⟨n, hparts, hminus, rfl⟩ := written_of_scanUnsigned h
    refine ⟨n, hparts, ?_⟩
    simp [WrittenNumber.written, hminus]

end Numeral

theorem readNumber_written (n : WrittenNumber) {v : Number} (hv : n.numeral.number? = some v)
    {rest : List Char} (hrest : EndsNumber rest) :
    readNumber (n.written ++ rest) = .ok (v, rest) := by
  rw [readNumber, Numeral.scan_written _ n hrest]
  simp only [hv]

def WrittenNumber.ofNat (n : Nat) : WrittenNumber where
  minus := false
  whole := ⟨Nat.toDigits 10 n, Nat.toDigits_ne_nil,
    fun _ hc => Nat.isDigit_of_mem_toDigits (by omega) (by omega) hc⟩
  zero_alone ds hds := by
    rcases Nat.eq_zero_or_pos n with rfl | hn
    · exact (List.cons.inj hds).2.symm
    · exact absurd (congrArg List.head? hds) (head?_toDigits_ne hn)
  fraction := none
  exponent := none

theorem readNumber_toDigits {n : Nat} (hn : n ≤ maxWord) {rest : List Char}
    (hrest : EndsNumber rest) :
    readNumber (Nat.toDigits 10 n ++ rest) = .ok (.natural n, rest) := by
  have hvalue : (WrittenNumber.ofNat n).numeral.number? = some (.natural n) := by
    simp [WrittenNumber.ofNat, WrittenNumber.numeral, Numeral.number?, ofDigits_toDigits, hn]
  have hread := readNumber_written (WrittenNumber.ofNat n) hvalue hrest
  simpa [WrittenNumber.ofNat, WrittenNumber.written, WrittenNumber.writtenFraction,
    WrittenNumber.writtenExponent] using hread

theorem written_of_readNumber {s rest : List Char} {v : Number}
    (h : readNumber s = .ok (v, rest)) :
    ∃ n : WrittenNumber, n.numeral.number? = some v ∧ s = n.written ++ rest := by
  unfold readNumber at h
  split at h
  · cases h
  · rename_i parts rest' hscan
    split at h
    · cases h
    · rename_i v' hv
      cases h
      obtain ⟨n, rfl, rfl⟩ := Numeral.written_of_scan hscan
      exact ⟨n, hv, rfl⟩

end SensorGateway.Json
