import VNodeOperator.ProofSupport.Store

/-!
# Parts of a store

The objects of a store whose keys meet a condition are a store of their own.
Reads and writes under such a key happen in that part; reads and writes under
any other key leave it alone.
-/

namespace VNodeOperator.ProofSupport.Store

variable {κ α : Type} [DecidableEq κ] {key : α → κ} (P : κ → Bool)

omit [DecidableEq κ] in
def part (s : Store key) : Store key :=
  ⟨s.items.filter fun a => P (key a), s.nodup.sublist (List.filter_sublist.map key)⟩

variable {P}

omit [DecidableEq κ] in
theorem part_items (s : Store key) : (s.part P).items = s.items.filter fun a => P (key a) := rfl

omit [DecidableEq κ] in
theorem mem_part {s : Store key} {a : α} : a ∈ (s.part P).items ↔ a ∈ s.items ∧ P (key a) := by
  simp [part]

theorem get_part {s : Store key} {k : κ} (hk : P k) : (s.part P).get k = s.get k := by
  apply Option.ext
  intro a
  rw [get_eq_some_iff, get_eq_some_iff, mem_part]
  constructor
  · rintro ⟨⟨ha, _⟩, hkey⟩
    exact ⟨ha, hkey⟩
  · rintro ⟨ha, hkey⟩
    refine ⟨⟨ha, ?_⟩, hkey⟩
    rw [hkey]
    exact hk

theorem part_replace (a : α) (l : List α) :
    (replace key a l).filter (fun b => P (key b)) =
      replace key a (l.filter fun b => P (key b)) := by
  rw [replace, List.filter_map, replace]
  congr 1
  apply List.filter_congr
  intro b _
  by_cases hb : key b = key a <;> simp [hb]

theorem part_put {s : Store key} {a : α} (ha : P (key a)) :
    (s.put a).part P = (s.part P).put a := by
  apply ext_items
  cases hget : s.get (key a) with
  | none =>
      have hpart : (s.part P).get (key a) = none := by rw [get_part ha, hget]
      rw [part_items, put_of_none hget, put_of_none hpart, List.filter_append, part_items]
      simp [ha]
  | some b =>
      have hpart : (s.part P).get (key a) = some b := by rw [get_part ha, hget]
      rw [part_items, put_of_some hget, put_of_some hpart]
      exact part_replace a s.items

theorem part_put_off {s : Store key} {a : α} (ha : P (key a) = false) :
    (s.put a).part P = s.part P := by
  apply ext_items
  have hoff : ∀ b ∈ s.items.filter (fun b => P (key b)), key b ≠ key a := by
    intro b hb hkey
    rw [List.mem_filter, hkey, ha] at hb
    exact Bool.false_ne_true hb.2
  cases hget : s.get (key a) with
  | none =>
      rw [part_items, put_of_none hget, List.filter_append, part_items]
      simp [ha]
  | some b =>
      rw [part_items, put_of_some hget]
      exact (part_replace a s.items).trans (replace_of_forall_ne hoff)

theorem part_erase (s : Store key) (k : κ) : (s.erase k).part P = (s.part P).erase k := by
  apply ext_items
  rw [part_items, erase_items, erase_items, part_items, List.filter_filter, List.filter_filter]
  simp only [Bool.and_comm]

theorem part_erase_off {s : Store key} {k : κ} (hk : P k = false) :
    (s.erase k).part P = s.part P := by
  rw [part_erase]
  apply erase_of_none
  rw [get_eq_none_iff]
  intro a ha hkey
  rw [mem_part, hkey, hk] at ha
  exact Bool.false_ne_true ha.2

omit [DecidableEq κ] in
theorem filter_part {s : Store key} {q : α → Bool} (hq : ∀ a, q a → P (key a)) :
    (s.part P).items.filter q = s.items.filter q := by
  rw [part_items, List.filter_filter]
  apply List.filter_congr
  intro a _
  cases h : q a with
  | false => rfl
  | true => simpa using hq a h

end VNodeOperator.ProofSupport.Store
