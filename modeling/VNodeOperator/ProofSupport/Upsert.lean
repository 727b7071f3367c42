import Mathlib.Data.List.Nodup

/-!
# Lists with one entry per key

`upsert` revises the first entry of a key in place, or appends a new entry if
the key has none.  It acts as the update of a finite map: at its own key only,
with the other entries in their order.
-/

namespace VNodeOperator.ProofSupport

variable {α κ : Type} [DecidableEq κ]

/-- Revise the first entry under `k`, or append `new`. -/
def upsert (key : α → κ) (k : κ) (revise : α → α) (new : α) : List α → List α
  | [] => [new]
  | a :: rest => if key a = k then revise a :: rest else a :: upsert key k revise new rest

section

variable {key : α → κ} {k : κ} {revise : α → α} {new : α} {l : List α}

theorem upsert_of_not_mem (hk : k ∉ l.map key) : upsert key k revise new l = l ++ [new] := by
  induction l with
  | nil => rfl
  | cons a rest ih =>
      rw [List.map_cons, List.mem_cons, not_or] at hk
      rw [upsert, if_neg (Ne.symm hk.1), ih hk.2]
      rfl

theorem map_key_upsert (hrevise : ∀ a, key (revise a) = key a) (hk : k ∈ l.map key) :
    (upsert key k revise new l).map key = l.map key := by
  induction l with
  | nil => cases hk
  | cons a rest ih =>
      rw [upsert]
      split
      · rw [List.map_cons, List.map_cons, hrevise]
      · next hne =>
          rw [List.map_cons, List.mem_cons] at hk
          rw [List.map_cons, List.map_cons, ih (hk.resolve_left (Ne.symm hne))]

theorem nodup_upsert (hrevise : ∀ a, key (revise a) = key a) (hnew : key new = k)
    (hl : (l.map key).Nodup) : ((upsert key k revise new l).map key).Nodup := by
  by_cases hk : k ∈ l.map key
  · rw [map_key_upsert hrevise hk]
    exact hl
  · rw [upsert_of_not_mem hk, List.map_append, List.map_singleton, hnew]
    exact List.nodup_append_comm.mp (List.nodup_cons.mpr ⟨hk, hl⟩)

theorem filter_upsert (hrevise : ∀ a, key (revise a) = key a) (hnew : key new = k) :
    (upsert key k revise new l).filter (fun a => key a ≠ k) =
      l.filter (fun a => key a ≠ k) := by
  induction l with
  | nil => simp [upsert, hnew]
  | cons a rest ih =>
      rw [upsert]
      split
      · next heq => simp [hrevise, heq]
      · next hne => rw [List.filter_cons, List.filter_cons, ih]

theorem find?_upsert_self (hrevise : ∀ a, key (revise a) = key a) (hnew : key new = k) :
    (upsert key k revise new l).find? (fun a => key a = k) =
      some ((l.find? fun a => key a = k).elim new revise) := by
  induction l with
  | nil => simp [upsert, hnew]
  | cons a rest ih =>
      rw [upsert]
      split
      · next heq => simp [hrevise, heq]
      · next hne => simp [hne, ih]

theorem find?_upsert_ne (hrevise : ∀ a, key (revise a) = key a) (hnew : key new = k) {k' : κ}
    (hne : k ≠ k') :
    (upsert key k revise new l).find? (fun a => key a = k') =
      l.find? (fun a => key a = k') := by
  induction l with
  | nil => simp [upsert, hnew, hne]
  | cons a rest ih =>
      rw [upsert]
      split
      · next heq => simp [hrevise, heq, hne]
      · simp only [List.find?_cons, ih]

theorem upsert_eq_self {a : α} (ha : l.find? (fun a => key a = k) = some a)
    (hfix : revise a = a) : upsert key k revise new l = l := by
  induction l with
  | nil => cases ha
  | cons b rest ih =>
      rw [upsert]
      split
      · next heq =>
          rw [List.find?_cons_of_pos (by simpa using heq)] at ha
          cases ha
          rw [hfix]
      · next hne =>
          rw [List.find?_cons_of_neg (by simpa using hne)] at ha
          rw [ih ha]

/-- Revisions under different keys that are there commute. -/
theorem upsert_comm {k' : κ} {revise' : α → α} {new' : α}
    (hrevise : ∀ a, key (revise a) = key a) (hrevise' : ∀ a, key (revise' a) = key a)
    (hne : k ≠ k') (hk : k ∈ l.map key) (hk' : k' ∈ l.map key) :
    upsert key k revise new (upsert key k' revise' new' l) =
      upsert key k' revise' new' (upsert key k revise new l) := by
  induction l with
  | nil => cases hk
  | cons a rest ih =>
      rw [List.map_cons, List.mem_cons] at hk hk'
      by_cases ha : key a = k
      · have ha' : key a ≠ k' := ha ▸ hne
        simp only [upsert, if_pos ha, if_neg ha', hrevise]
      · by_cases ha' : key a = k'
        · simp only [upsert, if_neg ha, if_pos ha', hrevise']
        · have hrest := ih (hk.resolve_left (Ne.symm ha)) (hk'.resolve_left (Ne.symm ha'))
          simp only [upsert, if_neg ha, if_neg ha', hrest]

end

end VNodeOperator.ProofSupport
