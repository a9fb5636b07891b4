/-!
# Tables

A table files values under keys.  Each key occurs once, and the entries keep the order in which
their keys were first filed.

A table is known by what `get?` finds in it: `get?_insert` and `get?_erase` say what filing and
removing do to it, and `mem_values` that the values are what it finds.
-/

namespace CircleVault

/-- Values filed under keys. -/
structure Table (κ ν : Type) where
  /-- The entries, oldest key first. -/
  entries : List (κ × ν)
  nodup : (entries.map Prod.fst).Nodup
deriving DecidableEq

namespace Table

variable {κ ν : Type} [DecidableEq κ]

def empty : Table κ ν := ⟨[], .nil⟩

/-- The values, oldest key first. -/
def values (t : Table κ ν) : List ν := t.entries.map Prod.snd

def get? (t : Table κ ν) (k : κ) : Option ν := t.entries.lookup k

/-- Whether a value is filed under a key. -/
def contains (t : Table κ ν) (k : κ) : Bool := (t.get? k).isSome

/-- File a value in a list of entries: in place of the key's present value, or at the end. -/
def fileIn (k : κ) (v : ν) : List (κ × ν) → List (κ × ν)
  | [] => [(k, v)]
  | (k', v') :: rest => if k' = k then (k, v) :: rest else (k', v') :: fileIn k v rest

theorem mem_keys_fileIn {k k' : κ} {v : ν} {l : List (κ × ν)} :
    k' ∈ (fileIn k v l).map Prod.fst ↔ k' = k ∨ k' ∈ l.map Prod.fst := by
  induction l with
  | nil => simp [fileIn]
  | cons e rest ih =>
      obtain ⟨ke, ve⟩ := e
      by_cases h : ke = k
      · simp [fileIn, h]
      · simp only [fileIn, if_neg h, List.map_cons, List.mem_cons, ih]
        exact or_left_comm

theorem nodup_fileIn (k : κ) (v : ν) {l : List (κ × ν)} (h : (l.map Prod.fst).Nodup) :
    ((fileIn k v l).map Prod.fst).Nodup := by
  induction l with
  | nil => simp [fileIn]
  | cons e rest ih =>
      obtain ⟨ke, ve⟩ := e
      simp only [List.map_cons, List.nodup_cons] at h
      by_cases hk : ke = k
      · subst hk
        simpa [fileIn] using h
      · simp only [fileIn, if_neg hk, List.map_cons, List.nodup_cons, mem_keys_fileIn, not_or]
        exact ⟨⟨hk, h.1⟩, ih h.2⟩

def insert (t : Table κ ν) (k : κ) (v : ν) : Table κ ν :=
  ⟨fileIn k v t.entries, nodup_fileIn k v t.nodup⟩

def erase (t : Table κ ν) (k : κ) : Table κ ν :=
  ⟨t.entries.filter fun e => e.1 ≠ k, t.nodup.sublist (List.filter_sublist.map _)⟩

/-! ## What is found -/

@[simp] theorem get?_empty (k : κ) : (empty : Table κ ν).get? k = none := rfl

theorem lookup_cons_eq (k k' : κ) (v : ν) (l : List (κ × ν)) :
    ((k, v) :: l).lookup k' = if k' = k then some v else l.lookup k' := by
  rw [List.lookup_cons]
  by_cases h : k' = k
  · simp [h]
  · rw [beq_false_of_ne h, if_neg h]

theorem lookup_fileIn (k k' : κ) (v : ν) (l : List (κ × ν)) :
    (fileIn k v l).lookup k' = if k' = k then some v else l.lookup k' := by
  induction l with
  | nil => rw [fileIn, lookup_cons_eq]
  | cons e rest ih =>
      obtain ⟨ke, ve⟩ := e
      by_cases hk : ke = k
      · subst hk
        by_cases h : k' = ke <;> simp [fileIn, lookup_cons_eq, h]
      · by_cases h : k' = ke
        · subst h
          simp [fileIn, hk]
        · simp [fileIn, hk, h, lookup_cons_eq, ih]

@[simp] theorem get?_insert (t : Table κ ν) (k k' : κ) (v : ν) :
    (t.insert k v).get? k' = if k' = k then some v else t.get? k' :=
  lookup_fileIn k k' v t.entries

theorem get?_insert_self (t : Table κ ν) (k : κ) (v : ν) : (t.insert k v).get? k = some v := by
  simp

@[simp] theorem get?_erase (t : Table κ ν) (k k' : κ) :
    (t.erase k).get? k' = if k' = k then none else t.get? k' := by
  simp only [get?, erase]
  induction t.entries with
  | nil => simp
  | cons e rest ih =>
      obtain ⟨ke, ve⟩ := e
      by_cases hk : ke = k
      · subst hk
        by_cases h : k' = ke
        · simpa [h] using ih
        · simpa [h, lookup_cons_eq] using ih
      · by_cases h : k' = ke
        · subst h
          simp [hk]
        · simpa [hk, h, lookup_cons_eq] using ih

/-- Filing a value changes what is found of that value and of the one in its place. -/
theorem of_insert_changed {t : Table κ ν} {k k' : κ} {v v' : ν}
    (changed : ¬(t.get? k' = some v' ↔ (t.insert k v).get? k' = some v')) :
    k' = k ∧ (v' = v ∨ t.get? k = some v') := by
  rw [get?_insert] at changed
  by_cases here : k' = k
  · rw [if_pos here, here, Option.some.injEq] at changed
    refine ⟨here, ?_⟩
    by_cases new : v' = v
    · exact .inl new
    · by_cases found : t.get? k = some v'
      · exact .inr found
      · exact absurd (iff_of_false found (Ne.symm new)) changed
  · rw [if_neg here] at changed
    exact absurd Iff.rfl changed

/-- Removing a key changes what is found of its value. -/
theorem of_erase_changed {t : Table κ ν} {k k' : κ} {v' : ν}
    (changed : ¬(t.get? k' = some v' ↔ (t.erase k).get? k' = some v')) :
    k' = k ∧ t.get? k = some v' := by
  rw [get?_erase] at changed
  by_cases here : k' = k
  · rw [if_pos here, here] at changed
    refine ⟨here, ?_⟩
    by_cases found : t.get? k = some v'
    · exact found
    · exact absurd (iff_of_false found nofun) changed
  · rw [if_neg here] at changed
    exact absurd Iff.rfl changed

theorem contains_eq_false {t : Table κ ν} {k : κ} : t.contains k = false ↔ t.get? k = none := by
  simp [contains]

theorem contains_eq_true {t : Table κ ν} {k : κ} : t.contains k = true ↔ t.get? k ≠ none := by
  rw [contains, Option.isSome_iff_ne_none]

/-! ## What is kept -/

theorem get?_insert_ne_none {t : Table κ ν} {k k' : κ} {v : ν} (there : t.get? k' ≠ none) :
    (t.insert k v).get? k' ≠ none := by
  rw [get?_insert]
  split
  · exact Option.some_ne_none v
  · exact there

/-- Filing a value under a new key hides no other. -/
theorem get?_insert_of_fresh {t : Table κ ν} {k k' : κ} {v v' : ν} (fresh : t.get? k = none)
    (found : t.get? k' = some v') : (t.insert k v).get? k' = some v' := by
  rw [get?_insert, if_neg, found]
  rintro rfl
  rw [fresh] at found
  cases found

theorem get?_of_erase {t : Table κ ν} {k k' : κ} {v : ν}
    (found : (t.erase k).get? k' = some v) : t.get? k' = some v := by
  rw [get?_erase] at found
  split at found
  · cases found
  · exact found

/-- What holds of every value filed, and of a new one, holds of all when the new one is filed. -/
theorem forall_insert {t : Table κ ν} {k : κ} {v : ν} {P : κ → ν → Prop}
    (kept : ∀ k' v', t.get? k' = some v' → P k' v') (new : P k v) (k' : κ) (v' : ν)
    (found : (t.insert k v).get? k' = some v') : P k' v' := by
  rw [get?_insert] at found
  split at found
  next same =>
    subst same
    exact Option.some.inj found ▸ new
  next => exact kept k' v' found

/-- A name that only one value can have stays so when a value is filed whose name is free. -/
theorem unique_insert {α : Type} {f : ν → α} {t : Table κ ν} {k : κ} {v : ν}
    (unique : ∀ k₁ k₂ v₁ v₂, t.get? k₁ = some v₁ → t.get? k₂ = some v₂ → f v₁ = f v₂ → k₁ = k₂)
    (free : ∀ k' v', t.get? k' = some v' → f v' = f v → k' = k) (k₁ k₂ : κ) (v₁ v₂ : ν)
    (found₁ : (t.insert k v).get? k₁ = some v₁) (found₂ : (t.insert k v).get? k₂ = some v₂)
    (same : f v₁ = f v₂) : k₁ = k₂ := by
  rw [get?_insert] at found₁ found₂
  split at found₁ <;> split at found₂
  next here₁ here₂ => exact here₁.trans here₂.symm
  next here₁ _ =>
    obtain rfl := Option.some.inj found₁
    exact here₁.trans (free k₂ v₂ found₂ same.symm).symm
  next _ here₂ =>
    obtain rfl := Option.some.inj found₂
    exact (free k₁ v₁ found₁ same).trans here₂.symm
  next => exact unique k₁ k₂ v₁ v₂ found₁ found₂ same

/-! ## Values -/

theorem mem_entries {t : Table κ ν} {k : κ} {v : ν} :
    (k, v) ∈ t.entries ↔ t.get? k = some v := by
  obtain ⟨entries, nodup⟩ := t
  simp only [get?]
  induction entries with
  | nil => simp
  | cons e rest ih =>
      obtain ⟨ke, ve⟩ := e
      simp only [List.map_cons, List.nodup_cons] at nodup
      by_cases h : k = ke
      · subst h
        have absent : (k, v) ∉ rest := fun hm => nodup.1 (List.mem_map_of_mem (f := Prod.fst) hm)
        simp [absent, eq_comm]
      · simp [h, lookup_cons_eq, ih nodup.2]

/-- Removing a key that is not there changes nothing. -/
theorem erase_of_absent {t : Table κ ν} {k : κ} (absent : t.get? k = none) : t.erase k = t := by
  have kept : t.entries.filter (fun e => e.1 ≠ k) = t.entries := by
    refine List.filter_eq_self.2 fun e filed => decide_eq_true ?_
    rintro rfl
    cases absent.symm.trans (mem_entries.1 filed)
  obtain ⟨entries, nodup⟩ := t
  exact (mk.injEq ..).mpr kept

theorem mem_values {t : Table κ ν} {v : ν} : v ∈ t.values ↔ ∃ k, t.get? k = some v := by
  simp [values, ← mem_entries]

theorem mem_values_of_get? {t : Table κ ν} {k : κ} {v : ν} (h : t.get? k = some v) :
    v ∈ t.values :=
  mem_values.2 ⟨k, h⟩

theorem mem_values_of_insert {t : Table κ ν} {k : κ} {v v' : ν} (h : v' ∈ (t.insert k v).values) :
    v' = v ∨ v' ∈ t.values := by
  obtain ⟨k', found⟩ := mem_values.1 h
  rw [get?_insert] at found
  split at found
  · exact .inl (Option.some.inj found).symm
  · exact .inr (mem_values_of_get? found)

theorem fileIn_of_fresh {k : κ} {v : ν} {l : List (κ × ν)} (fresh : k ∉ l.map Prod.fst) :
    fileIn k v l = l ++ [(k, v)] := by
  induction l with
  | nil => rfl
  | cons e rest ih =>
      rw [List.map_cons, List.mem_cons, not_or] at fresh
      rw [fileIn, if_neg (Ne.symm fresh.1), ih fresh.2, List.cons_append]

/-- A value filed under a new key comes last. -/
theorem values_insert_of_fresh {t : Table κ ν} {k : κ} (fresh : t.get? k = none) (v : ν) :
    (t.insert k v).values = t.values ++ [v] := by
  have unfiled : k ∉ t.entries.map Prod.fst := by
    intro filed
    obtain ⟨⟨_, v'⟩, mem, rfl⟩ := List.mem_map.1 filed
    have found := mem_entries.1 mem
    rw [fresh] at found
    cases found
  show (fileIn k v t.entries).map Prod.snd = t.values ++ [v]
  rw [fileIn_of_fresh unfiled, List.map_append]
  rfl

theorem mem_values_of_erase {t : Table κ ν} {k : κ} {v : ν} (h : v ∈ (t.erase k).values) :
    v ∈ t.values := by
  obtain ⟨k', found⟩ := mem_values.1 h
  exact mem_values_of_get? (get?_of_erase found)

/-- Where each value names the key it is filed under, no two values name the same. -/
theorem nodup_values_map {t : Table κ ν} {f : ν → κ} (own : ∀ k v, t.get? k = some v → f v = k) :
    (t.values.map f).Nodup := by
  have names : t.values.map f = t.entries.map Prod.fst := by
    rw [values, List.map_map]
    exact List.map_congr_left fun e he => own e.1 e.2 (mem_entries.1 he)
  exact names ▸ t.nodup

/-- A condition that holds of the value under one key alone selects that value. -/
theorem filter_values_eq_singleton {t : Table κ ν} {p : ν → Bool} {k : κ} {v : ν}
    (found : t.get? k = some v) (holds : p v = true)
    (only : ∀ k' v', t.get? k' = some v' → p v' = true → k' = k) :
    t.values.filter p = [v] := by
  have same : ∀ e ∈ t.entries.filter (fun e => p e.2), e = (k, v) := by
    intro e he
    obtain ⟨filed, he⟩ := List.mem_filter.1 he
    have here := mem_entries.1 filed
    obtain rfl := only e.1 e.2 here he
    rw [found] at here
    exact Prod.ext rfl (Option.some.inj here).symm
  have mem : (k, v) ∈ t.entries.filter (fun e => p e.2) :=
    List.mem_filter.2 ⟨mem_entries.2 found, holds⟩
  have nodup : ((t.entries.filter fun e => p e.2).map Prod.fst).Nodup :=
    t.nodup.sublist (List.filter_sublist.map _)
  rw [values, List.filter_map]
  show (t.entries.filter fun e => p e.2).map Prod.snd = [v]
  generalize t.entries.filter (fun e => p e.2) = selected at same mem nodup
  match selected with
  | [] => simp at mem
  | [e] => simp [same e (by simp)]
  | e :: e' :: rest =>
      rw [same e (by simp), same e' (by simp)] at nodup
      simp at nodup

/-! ## Searching -/

/-- Searching the values comes to one answer: at most one value meets the condition, and it is found
in whatever order the values are gone through. -/
def Settles (t : Table κ ν) (p : ν → Bool) (answer : Option ν) : Prop :=
  (t.values.filter p).length ≤ 1 ∧ ∀ order : List ν, order.Perm t.values → order.find? p = answer

theorem eq_of_length_le_one {α : Type} {l : List α} {a b : α} (few : l.length ≤ 1) (ha : a ∈ l)
    (hb : b ∈ l) : a = b := by
  match l with
  | [] => cases ha
  | [c] => exact (List.mem_singleton.1 ha).trans (List.mem_singleton.1 hb).symm
  | c :: d :: rest => simp at few

/-- Where at most one value meets a condition, the order of the values does not matter. -/
theorem find?_of_perm {α : Type} {p : α → Bool} {l l' : List α} (perm : l'.Perm l)
    (few : (l.filter p).length ≤ 1) : l'.find? p = l.find? p := by
  have same : l'.filter p = l.filter p := by
    have selected := perm.filter p
    generalize l.filter p = met at selected few
    match met with
    | [] => exact List.perm_nil.1 selected
    | [a] => exact List.perm_singleton.1 selected
    | a :: b :: rest => simp at few
  rw [← List.head?_filter, ← List.head?_filter, same]

/-- Searching comes to one answer exactly if the condition holds under one key at most. -/
theorem settles_iff {t : Table κ ν} {p : ν → Bool} :
    t.Settles p (t.values.find? p) ↔
      ∀ k k' v v', t.get? k = some v → t.get? k' = some v' → p v = true → p v' = true →
        k = k' := by
  constructor
  · rintro ⟨few, -⟩ k k' v v' found found' holds holds'
    rw [values, List.filter_map, List.length_map] at few
    have mem : (k, v) ∈ t.entries.filter (p ∘ Prod.snd) :=
      List.mem_filter.2 ⟨mem_entries.2 found, holds⟩
    have mem' : (k', v') ∈ t.entries.filter (p ∘ Prod.snd) :=
      List.mem_filter.2 ⟨mem_entries.2 found', holds'⟩
    exact congrArg Prod.fst (eq_of_length_le_one few mem mem')
  · intro only
    have few : (t.values.filter p).length ≤ 1 := by
      cases met : t.values.filter p with
      | nil => exact Nat.zero_le 1
      | cons v rest =>
          have listed : v ∈ t.values.filter p := met ▸ List.mem_cons_self
          obtain ⟨mem, holds⟩ := List.mem_filter.1 listed
          obtain ⟨k, found⟩ := mem_values.1 mem
          have one := filter_values_eq_singleton found holds fun k' v' found' holds' =>
            only k' k v' v found' found holds' holds
          rw [← met, one]
          exact Nat.le_refl 1
    exact ⟨few, fun order perm => find?_of_perm perm few⟩

end Table

end CircleVault
