import SensorGateway.Reload
import SensorGateway.Repository.Memory

/-!
Going through pages. `Reload.Pages` tells request by request which pages are found, and
`Reload.collect` finds what is on them. If every page is the stretch of one list that was
asked for, then the pages are exactly what lies ahead in the list, whatever the size of a
page, and there is one more of them than there are full ones.
-/

namespace SensorGateway

namespace Reload

variable {ρ : Type}

/-- To go through pages: they are asked for one after another, each of them from where the
last one ended, until one is not full. -/
inductive Pages (fetch : Nat → ρ → Answer ρ (List SensorRecord)) (limit : Nat) :
    Nat → ρ → List (List SensorRecord) → ρ → Prop where
  | last {skip : Nat} {r r' : ρ} {page : List SensorRecord}
      (hfetch : fetch skip r = (.ok page, r')) (hshort : page.length < limit) :
      Pages fetch limit skip r [page] r'
  | full {skip : Nat} {r r' r'' : ρ} {page : List SensorRecord}
      {pages : List (List SensorRecord)} (hfetch : fetch skip r = (.ok page, r'))
      (hfull : limit ≤ page.length)
      (hrest : Pages fetch limit (skip + page.length) r' pages r'') :
      Pages fetch limit skip r (page :: pages) r''

variable {fetch : Nat → ρ → Answer ρ (List SensorRecord)} {limit : Nat}

/-- Here `r n` is the repository after it has served `n` pages. -/
theorem exists_pages (hlimit : 0 < limit) {xs : List SensorRecord} {r : Nat → ρ}
    (hfetch : ∀ skip n, fetch skip (r n) = (.ok ((xs.drop skip).take limit), r (n + 1)))
    (skip n : Nat) :
    ∃ pages, Pages fetch limit skip (r n) pages (r (n + pages.length)) ∧
      pages.flatten = xs.drop skip ∧ pages.length = (xs.length - skip) / limit + 1 := by
  -- The induction is on what lies ahead, which a full page makes shorter.
  induction hahead : xs.length - skip using Nat.strongRecOn generalizing skip n with
  | _ d ih =>
      have hlen : ((xs.drop skip).take limit).length = min limit d := by
        rw [List.length_take, List.length_drop, hahead]
      rcases Nat.lt_or_ge d limit with hd | hd
      · have hall : (xs.drop skip).take limit = xs.drop skip := by
          apply List.take_of_length_le
          rw [List.length_drop]
          omega
        refine ⟨[(xs.drop skip).take limit], .last (hfetch skip n) (by omega), ?_, ?_⟩
        · rw [List.flatten_singleton, hall]
        · rw [Nat.div_eq_of_lt hd, List.length_singleton]
      · have hpage : ((xs.drop skip).take limit).length = limit := by omega
        obtain ⟨pages, hpages, hflatten, hlength⟩ :=
          ih (d - limit) (by omega) (skip + limit) (n + 1) (by omega)
        refine ⟨(xs.drop skip).take limit :: pages, ?_, ?_, ?_⟩
        · refine .full (hfetch skip n) (Nat.le_of_eq hpage.symm) ?_
          rw [hpage, List.length_cons, Nat.add_comm pages.length, ← Nat.add_assoc]
          exact hpages
        · rw [List.flatten_cons, hflatten, ← List.drop_drop, List.take_append_drop]
        · rw [List.length_cons, hlength, Nat.div_eq_sub_div hlimit hd]

variable {ahead : Nat → ρ → Nat}
  (shrinks : ∀ {skip r page r'}, fetch skip r = (.ok page, r') → limit ≤ page.length →
    ahead (skip + page.length) r' < ahead skip r)

include shrinks

theorem collect_of_error {skip : Nat} {r r' : ρ} {e : RepositoryError}
    (h : fetch skip r = (.error e, r')) :
    collect fetch limit ahead shrinks skip r = (.error e, r') := by
  rw [collect]
  split
  · rename_i heq
    cases h.symm.trans heq
    rfl
  · rename_i heq
    cases h.symm.trans heq

theorem collect_of_short {skip : Nat} {r r' : ρ} {page : List SensorRecord}
    (h : fetch skip r = (.ok page, r')) (hshort : page.length < limit) :
    collect fetch limit ahead shrinks skip r = (.ok page, r') := by
  rw [collect]
  split
  · rename_i heq
    cases h.symm.trans heq
  · rename_i page' r'' heq
    cases h.symm.trans heq
    rw [dif_pos hshort]

theorem collect_of_full {skip : Nat} {r r' r'' : ρ} {page rest : List SensorRecord}
    (h : fetch skip r = (.ok page, r')) (hfull : limit ≤ page.length)
    (hrest : collect fetch limit ahead shrinks (skip + page.length) r' = (.ok rest, r'')) :
    collect fetch limit ahead shrinks skip r = (.ok (page ++ rest), r'') := by
  rw [collect]
  split
  · rename_i heq
    cases h.symm.trans heq
  · rename_i page' r''' heq
    cases h.symm.trans heq
    rw [dif_neg (Nat.not_lt.2 hfull), hrest]

/-- The sensors found are those on the pages. -/
theorem collect_of_pages {skip : Nat} {r r' : ρ} {pages : List (List SensorRecord)}
    (h : Pages fetch limit skip r pages r') :
    collect fetch limit ahead shrinks skip r = (.ok pages.flatten, r') := by
  induction h with
  | last hfetch hshort =>
      rw [List.flatten_singleton]
      exact collect_of_short shrinks hfetch hshort
  | full hfetch hfull _ ih =>
      rw [List.flatten_cons]
      exact collect_of_full shrinks hfetch hfull ih

end Reload

end SensorGateway
