/-!
Values by key, as a list of pairs in the order of their keys' first assignment. A key keeps its
place when it is assigned again, and a new one goes to the end.
-/

namespace DynLisp

def assign {κ α : Type} [BEq κ] (key : κ) (value : α) : List (κ × α) → List (κ × α)
  | [] => [(key, value)]
  | (k, v) :: rest => if k == key then (k, value) :: rest else (k, v) :: assign key value rest

theorem lookupAssign {κ α : Type} [BEq κ] [LawfulBEq κ] (key other : κ) (value : α)
    (pairs : List (κ × α)) :
    (assign key value pairs).lookup other =
      if other == key then some value else pairs.lookup other := by
  induction pairs with
  | nil => cases h : other == key <;> simp [assign, List.lookup_cons, h]
  | cons pair rest ih =>
    obtain ⟨k, v⟩ := pair
    by_cases same : k = key
    · subst same
      cases h : other == k <;> simp [assign, List.lookup_cons, h]
    · have differ : (k == key) = false := by simpa using same
      simp only [assign, differ, Bool.false_eq_true, if_false, List.lookup_cons]
      cases h : other == k with
      | true =>
        have : other = k := by simpa using h
        simp [this, same]
      | false => simp [ih]

theorem keysAssign {κ α : Type} [BEq κ] [LawfulBEq κ] (key : κ) (value : α)
    (pairs : List (κ × α)) :
    (assign key value pairs).map Prod.fst =
      if key ∈ pairs.map Prod.fst then pairs.map Prod.fst else pairs.map Prod.fst ++ [key] := by
  induction pairs with
  | nil => simp [assign]
  | cons pair rest ih =>
    obtain ⟨k, v⟩ := pair
    by_cases same : k = key
    · simp [assign, same]
    · by_cases known : key ∈ rest.map Prod.fst <;>
        simp_all [assign, Ne.symm same]

section

variable {κ : Type} [BEq κ] [LawfulBEq κ] {keys : List κ}

theorem addedExtends (key : κ) : keys <+: if key ∈ keys then keys else keys ++ [key] := by
  split
  · exact List.prefix_rfl
  · exact List.prefix_append keys [key]

theorem addedNodup (distinct : keys.Nodup) (key : κ) :
    (if key ∈ keys then keys else keys ++ [key]).Nodup := by
  split
  · exact distinct
  · rename_i unknown
    rw [List.nodup_append]
    refine ⟨distinct, by simp, fun k known l added => ?_⟩
    rw [List.mem_singleton.1 added]
    rintro rfl
    exact unknown known

/-- One more use adds a key at the end, unless it was used before. -/
theorem addedUsed (used : List κ) (key : κ) :
    (if key ∈ used.eraseDups then used.eraseDups else used.eraseDups ++ [key]) =
      (used ++ [key]).eraseDups := by
  rw [List.eraseDups_append]
  by_cases known : key ∈ used <;>
    simp [known, List.mem_eraseDups, List.removeAll, List.eraseDups_cons]

end

end DynLisp
