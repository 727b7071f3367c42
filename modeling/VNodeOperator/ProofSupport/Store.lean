import Mathlib.Data.List.Nodup

/-!
# Keyed object stores

An API server keeps at most one object under a key, and the key is part of the
object.  `Store key` carries that fact as a field: its list of objects has
pairwise distinct keys.  Reads and writes go by key; `put` replaces in place,
so a listing keeps its order under updates.
-/

namespace VNodeOperator.ProofSupport

/-- Objects with pairwise distinct keys. -/
structure Store {κ α : Type} (key : α → κ) where
  items : List α
  nodup : (items.map key).Nodup

namespace Store

variable {κ α : Type} [DecidableEq κ] {key : α → κ}

omit [DecidableEq κ] in
theorem ext_items {s t : Store key} (h : s.items = t.items) : s = t := by
  cases s
  cases t
  cases h
  rfl

def empty : Store key := ⟨[], List.nodup_nil⟩

def get (s : Store key) (k : κ) : Option α :=
  s.items.find? (fun a => key a = k)

theorem get_eq_some_iff (s : Store key) {k : κ} {a : α} :
    s.get k = some a ↔ a ∈ s.items ∧ key a = k := by
  constructor
  · intro h
    exact ⟨List.mem_of_find?_eq_some h, by simpa using List.find?_some h⟩
  · rintro ⟨hmem, hkey⟩
    cases hfind : s.get k with
    | none =>
        have hnone := List.find?_eq_none.mp hfind a hmem
        simp [hkey] at hnone
    | some b =>
        have hb := List.mem_of_find?_eq_some hfind
        have hbkey : key b = k := by simpa using List.find?_some hfind
        have hab := List.inj_on_of_nodup_map s.nodup hb hmem (hbkey.trans hkey.symm)
        rw [hab]

theorem get_eq_none_iff (s : Store key) {k : κ} :
    s.get k = none ↔ ∀ a ∈ s.items, key a ≠ k := by
  simp [get]

theorem key_of_get {s : Store key} {k : κ} {a : α} (h : s.get k = some a) : key a = k :=
  (s.get_eq_some_iff.mp h).2

theorem mem_of_get {s : Store key} {k : κ} {a : α} (h : s.get k = some a) : a ∈ s.items :=
  (s.get_eq_some_iff.mp h).1

theorem get_of_mem {s : Store key} {a : α} (h : a ∈ s.items) : s.get (key a) = some a :=
  s.get_eq_some_iff.mpr ⟨h, rfl⟩

/-! ## Writing -/

/-- Replace the object with the key of `a`, in place. -/
def replace (key : α → κ) (a : α) (l : List α) : List α :=
  l.map fun b => if key b = key a then a else b

theorem map_key_replace (a : α) (l : List α) :
    (replace key a l).map key = l.map key := by
  simp only [replace, List.map_map]
  apply List.map_congr_left
  intro b _
  by_cases hb : key b = key a <;> simp [hb]

/-- Write `a` under its key, replacing what was stored there. -/
def put (s : Store key) (a : α) : Store key :=
  if h : (s.get (key a)).isSome then
    ⟨replace key a s.items, by rw [map_key_replace]; exact s.nodup⟩
  else
    ⟨s.items ++ [a], by
      rw [Option.not_isSome_iff_eq_none, get_eq_none_iff] at h
      rw [List.map_append, List.nodup_append]
      refine ⟨s.nodup, by simp, ?_⟩
      intro k hk k' hk'
      obtain ⟨b, hb, rfl⟩ := List.mem_map.mp hk
      simp only [List.map_cons, List.map_nil, List.mem_singleton] at hk'
      rw [hk']
      exact h b hb⟩

theorem put_of_some {s : Store key} {a b : α} (h : s.get (key a) = some b) :
    (s.put a).items = replace key a s.items := by
  simp [put, h]

theorem put_of_none {s : Store key} {a : α} (h : s.get (key a) = none) :
    (s.put a).items = s.items ++ [a] := by
  simp [put, h]

theorem map_put_of_some {β : Type} {f : α → β} {s : Store key} {a b : α}
    (h : s.get (key a) = some b) (hf : f a = f b) : (s.put a).items.map f = s.items.map f := by
  rw [put_of_some h, replace, List.map_map]
  apply List.map_congr_left
  intro c hc
  by_cases hkey : key c = key a
  · have hcb : c = b := by
      have hget := get_of_mem hc
      rw [hkey, h, Option.some.injEq] at hget
      exact hget.symm
    rw [Function.comp_apply, if_pos hkey, hf, hcb]
  · rw [Function.comp_apply, if_neg hkey]

theorem mem_put {s : Store key} {a b : α} :
    b ∈ (s.put a).items ↔ b = a ∨ (b ∈ s.items ∧ key b ≠ key a) := by
  cases h : s.get (key a) with
  | none =>
      rw [put_of_none h, List.mem_append, List.mem_singleton]
      have hne := s.get_eq_none_iff.mp h
      constructor
      · rintro (hb | rfl)
        · exact Or.inr ⟨hb, hne b hb⟩
        · exact Or.inl rfl
      · rintro (rfl | ⟨hb, _⟩)
        · exact Or.inr rfl
        · exact Or.inl hb
  | some c =>
      rw [put_of_some h, replace, List.mem_map]
      constructor
      · rintro ⟨d, hd, rfl⟩
        by_cases hk : key d = key a
        · exact Or.inl (by simp [hk])
        · exact Or.inr (by simpa [hk] using hd)
      · rintro (rfl | ⟨hb, hk⟩)
        · exact ⟨c, mem_of_get h, by simp [key_of_get h]⟩
        · exact ⟨b, hb, by simp [hk]⟩

@[simp] theorem get_put_self (s : Store key) (a : α) : (s.put a).get (key a) = some a :=
  (s.put a).get_eq_some_iff.mpr ⟨mem_put.mpr (Or.inl rfl), rfl⟩

theorem get_put_ne (s : Store key) {a : α} {k : κ} (h : key a ≠ k) :
    (s.put a).get k = s.get k := by
  apply Option.ext
  intro b
  rw [get_eq_some_iff, get_eq_some_iff, mem_put]
  constructor
  · rintro ⟨rfl | ⟨hb, _⟩, hk⟩
    · exact absurd hk h
    · exact ⟨hb, hk⟩
  · rintro ⟨hb, hk⟩
    exact ⟨Or.inr ⟨hb, fun he => h (he.symm.trans hk)⟩, hk⟩

theorem get_put (s : Store key) (a : α) (k : κ) :
    (s.put a).get k = if key a = k then some a else s.get k := by
  split_ifs with h
  · rw [← h, get_put_self]
  · exact s.get_put_ne h

/-- After storing a list of values the last one stays under each key. -/
theorem get_foldl_put (l : List α) (s : Store key) (k : κ) :
    ((∀ a ∈ l, key a ≠ k) ∧ (l.foldl put s).get k = s.get k) ∨
      ∃ b ∈ l, key b = k ∧ (l.foldl put s).get k = some b := by
  induction l generalizing s with
  | nil => exact Or.inl ⟨by simp, rfl⟩
  | cons x l ih =>
      rw [List.foldl_cons]
      rcases ih (s.put x) with ⟨hne, hget⟩ | ⟨b, hb, hkey, hget⟩
      · by_cases hx : key x = k
        · refine Or.inr ⟨x, List.mem_cons_self, hx, ?_⟩
          rw [hget, ← hx, get_put_self]
        · refine Or.inl ⟨?_, ?_⟩
          · intro a ha
            rcases List.mem_cons.mp ha with rfl | ha
            · exact hx
            · exact hne a ha
          · rw [hget, s.get_put_ne hx]
      · exact Or.inr ⟨b, List.mem_cons_of_mem x hb, hkey, hget⟩

theorem get_foldl_put_of_ne {l : List α} {k : κ} (h : ∀ a ∈ l, key a ≠ k) (s : Store key) :
    (l.foldl put s).get k = s.get k := by
  rcases get_foldl_put l s k with ⟨_, hget⟩ | ⟨b, hb, hkey, _⟩
  · exact hget
  · exact absurd hkey (h b hb)

theorem get_foldl_put_of_mem {l : List α} {a : α} (ha : a ∈ l) (s : Store key) :
    ∃ b ∈ l, key b = key a ∧ (l.foldl put s).get (key a) = some b := by
  rcases get_foldl_put l s (key a) with ⟨hne, _⟩ | h
  · exact absurd rfl (hne a ha)
  · exact h

/-- Every value of the list is found again, up to `content`, exactly when values
with one key agree on it. -/
theorem foldl_put_keeps_iff {β : Type} (content : α → β) (l : List α) (s : Store key) :
    (∀ a ∈ l, ∃ b, (l.foldl put s).get (key a) = some b ∧ content b = content a) ↔
      ∀ a ∈ l, ∀ b ∈ l, key a = key b → content a = content b := by
  constructor
  · intro h a ha b hb hkey
    obtain ⟨c, hget, hca⟩ := h a ha
    obtain ⟨c', hget', hcb⟩ := h b hb
    rw [← hkey, hget, Option.some.injEq] at hget'
    rw [← hca, hget', hcb]
  · intro h a ha
    obtain ⟨b, hb, hkey, hget⟩ := get_foldl_put_of_mem ha s
    exact ⟨b, hget, h b hb a ha hkey⟩

theorem replace_of_forall_ne {a : α} {l : List α} (h : ∀ b ∈ l, key b ≠ key a) :
    replace key a l = l := by
  rw [replace]
  conv_rhs => rw [← List.map_id l]
  apply List.map_congr_left
  intro b hb
  rw [if_neg (h b hb), id]

theorem replace_replace {a b : α} (h : key a = key b) (l : List α) :
    replace key b (replace key a l) = replace key b l := by
  simp only [replace, List.map_map]
  apply List.map_congr_left
  intro c _
  by_cases hc : key c = key a
  · simp [hc, h]
  · have hcb : key c ≠ key b := fun he => hc (he.trans h.symm)
    simp [hc, hcb]

theorem put_put {a b : α} (s : Store key) (h : key a = key b) :
    (s.put a).put b = s.put b := by
  apply ext_items
  have hget : (s.put a).get (key b) = some a := by rw [← h, get_put_self]
  rw [put_of_some hget]
  cases hs : s.get (key a) with
  | none =>
      have hne : ∀ c ∈ s.items, key c ≠ key b := by
        rw [← h]
        exact s.get_eq_none_iff.mp hs
      have hlast : replace key b [a] = [b] := by simp [replace, h]
      rw [put_of_none hs, put_of_none (h ▸ hs)]
      calc
        replace key b (s.items ++ [a]) = replace key b s.items ++ replace key b [a] := by
          simp [replace]
        _ = s.items ++ [b] := by rw [replace_of_forall_ne hne, hlast]
  | some c =>
      rw [put_of_some hs, put_of_some (h ▸ hs), replace_replace h]

/-! ## Deleting -/

def erase (s : Store key) (k : κ) : Store key :=
  ⟨s.items.filter (fun a => key a ≠ k),
    s.nodup.sublist (List.filter_sublist.map key)⟩

theorem erase_items (s : Store key) (k : κ) :
    (s.erase k).items = s.items.filter (fun a => key a ≠ k) := rfl

theorem mem_erase {s : Store key} {k : κ} {a : α} :
    a ∈ (s.erase k).items ↔ a ∈ s.items ∧ key a ≠ k := by
  simp [erase]

theorem erase_of_none {s : Store key} {k : κ} (h : s.get k = none) : s.erase k = s := by
  apply ext_items
  rw [get_eq_none_iff] at h
  exact List.filter_eq_self.mpr (fun a ha => by simpa using h a ha)

theorem get_erase (s : Store key) (k k' : κ) :
    (s.erase k).get k' = if k = k' then none else s.get k' := by
  split_ifs with h
  · rw [get_eq_none_iff]
    intro a ha
    rw [← h]
    exact (mem_erase.mp ha).2
  · apply Option.ext
    intro a
    rw [get_eq_some_iff, get_eq_some_iff, mem_erase]
    constructor
    · rintro ⟨⟨ha, _⟩, hk⟩
      exact ⟨ha, hk⟩
    · rintro ⟨ha, hk⟩
      exact ⟨⟨ha, fun he => h (he.symm.trans hk)⟩, hk⟩

@[simp] theorem get_erase_self (s : Store key) (k : κ) : (s.erase k).get k = none := by
  rw [get_erase, if_pos rfl]

theorem get_erase_ne (s : Store key) {k k' : κ} (h : k ≠ k') :
    (s.erase k).get k' = s.get k' := by
  rw [get_erase, if_neg h]

theorem get_foldl_erase (keys : List κ) (s : Store key) (k : κ) :
    (keys.foldl erase s).get k = if k ∈ keys then none else s.get k := by
  induction keys generalizing s with
  | nil => simp
  | cons k₀ keys ih =>
      rw [List.foldl_cons, ih, get_erase]
      by_cases hmem : k ∈ keys
      · simp [hmem]
      · by_cases hk : k₀ = k
        · simp [hk]
        · simp [hmem, hk, Ne.symm hk]

theorem erase_put (s : Store key) (a : α) : (s.put a).erase (key a) = s.erase (key a) := by
  apply ext_items
  cases h : s.get (key a) with
  | none =>
      simp [erase_items, put_of_none h]
  | some b =>
      rw [erase_items, put_of_some h, erase_items, replace, List.filter_map]
      have hsame : ∀ c ∈ s.items.filter ((fun a' => decide (key a' ≠ key a)) ∘
          fun b => if key b = key a then a else b),
          (if key c = key a then a else c) = c := by
        intro c hc
        by_cases hk : key c = key a
        · simp [hk] at hc
        · rw [if_neg hk]
      rw [List.map_congr_left hsame, List.map_id']
      apply List.filter_congr
      intro c _
      by_cases hk : key c = key a <;> simp [hk]

/-! ## Counting -/

omit [DecidableEq κ] in
theorem nodup_items (s : Store key) : s.items.Nodup := List.Nodup.of_map key s.nodup

theorem items_perm_cons_erase {s : Store key} {k : κ} {a : α} (h : s.get k = some a) :
    s.items.Perm (a :: (s.erase k).items) := by
  obtain ⟨hmem, hk⟩ := s.get_eq_some_iff.mp h
  have hnodup : (a :: (s.erase k).items).Nodup := by
    rw [List.nodup_cons]
    exact ⟨fun ha => (mem_erase.mp ha).2 hk, (s.erase k).nodup_items⟩
  rw [List.perm_ext_iff_of_nodup s.nodup_items hnodup]
  intro b
  rw [List.mem_cons, mem_erase]
  constructor
  · intro hb
    by_cases hbk : key b = k
    · exact Or.inl (List.inj_on_of_nodup_map s.nodup hb hmem (hbk.trans hk.symm))
    · exact Or.inr ⟨hb, hbk⟩
  · rintro (rfl | ⟨hb, _⟩)
    · exact hmem
    · exact hb

theorem put_items_perm_cons_erase (s : Store key) (a : α) :
    (s.put a).items.Perm (a :: (s.erase (key a)).items) := by
  have hperm := items_perm_cons_erase (s.get_put_self a)
  rwa [erase_put] at hperm

theorem countP_erase_add {s : Store key} {k : κ} {a : α} (p : α → Bool) (h : s.get k = some a) :
    (s.erase k).items.countP p + (if p a then 1 else 0) = s.items.countP p := by
  rw [(items_perm_cons_erase h).countP_eq, List.countP_cons]

theorem countP_put (s : Store key) (a : α) (p : α → Bool) :
    (s.put a).items.countP p =
      (s.erase (key a)).items.countP p + if p a then 1 else 0 := by
  rw [(s.put_items_perm_cons_erase a).countP_eq, List.countP_cons]

theorem countP_put_of_none {s : Store key} {a : α} (p : α → Bool) (h : s.get (key a) = none) :
    (s.put a).items.countP p = s.items.countP p + if p a then 1 else 0 := by
  rw [countP_put, erase_of_none h]

/-- Overwriting an object exchanges its contribution to a count. -/
theorem countP_put_add {s : Store key} {a b : α} (p : α → Bool) (h : s.get (key a) = some b) :
    (s.put a).items.countP p + (if p b then 1 else 0) =
      s.items.countP p + if p a then 1 else 0 := by
  rw [countP_put, ← countP_erase_add p h]
  omega

theorem countP_put_of_some {s : Store key} {a b : α} (p : α → Bool)
    (h : s.get (key a) = some b) (hp : p a = p b) :
    (s.put a).items.countP p = s.items.countP p := by
  have hcount := countP_put_add p h
  rw [hp] at hcount
  omega

end Store

end VNodeOperator.ProofSupport
