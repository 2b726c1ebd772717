import DenseSketch.Document.Basic
import Mathlib.Data.List.Nodup

/-!
# Values under keys

What is found in a list of members under a key.
-/

namespace DenseSketch

variable {α β : Type}

theorem lookup?_put_self (key : String) (value : α) (members : List (String × α)) :
    lookup? key (put key value members) = some value := by
  induction members with
  | nil => simp [put, lookup?]
  | cons member members ih =>
    obtain ⟨k, v⟩ := member
    by_cases hk : k = key
    · simp [put, lookup?, hk]
    · simp [put, lookup?, hk, ih]

theorem lookup?_put_of_ne {key other : String} (hne : other ≠ key) (value : α)
    (members : List (String × α)) :
    lookup? other (put key value members) = lookup? other members := by
  induction members with
  | nil => simp [put, lookup?, hne.symm]
  | cons member members ih =>
    obtain ⟨k, v⟩ := member
    by_cases hk : k = key
    · subst hk
      simp [put, lookup?, hne.symm]
    · simp [put, lookup?, hk, ih]

theorem mem_keys_put {key other : String} {value : α} {members : List (String × α)} :
    other ∈ (put key value members).map Prod.fst ↔
      other = key ∨ other ∈ members.map Prod.fst := by
  induction members with
  | nil => simp [put]
  | cons member members ih =>
    obtain ⟨k, v⟩ := member
    by_cases hk : k = key
    · simp [put, hk]
    · rw [put, if_neg (by simpa using hk), List.map_cons, List.mem_cons, ih, List.map_cons,
        List.mem_cons]
      exact or_left_comm

theorem nodup_keys_put {key : String} {value : α} {members : List (String × α)}
    (hkeys : (members.map Prod.fst).Nodup) : ((put key value members).map Prod.fst).Nodup := by
  induction members with
  | nil => simp [put]
  | cons member members ih =>
    obtain ⟨k, v⟩ := member
    rw [List.map_cons, List.nodup_cons] at hkeys
    obtain ⟨hfresh, hrest⟩ := hkeys
    by_cases hk : k = key
    · rw [put, if_pos (by simpa using hk), List.map_cons, List.nodup_cons]
      exact ⟨hfresh, hrest⟩
    · rw [put, if_neg (by simpa using hk), List.map_cons, List.nodup_cons, mem_keys_put, not_or]
      exact ⟨⟨hk, hfresh⟩, ih hrest⟩

theorem mem_of_lookup?_eq_some {members : List (String × α)} {key : String} {value : α}
    (hfound : lookup? key members = some value) : (key, value) ∈ members := by
  induction members with
  | nil => simp [lookup?] at hfound
  | cons member members ih =>
    obtain ⟨k, v⟩ := member
    by_cases hk : k = key
    · simp_all [lookup?]
    · simp_all [lookup?]

theorem exists_lookup?_of_mem_keys {members : List (String × α)} {key : String}
    (hkey : key ∈ members.map Prod.fst) : ∃ value, lookup? key members = some value := by
  induction members with
  | nil => cases hkey
  | cons member members ih =>
    obtain ⟨k, v⟩ := member
    by_cases hk : k = key
    · exact ⟨v, by simp [lookup?, hk]⟩
    · rw [List.map_cons, List.mem_cons] at hkey
      obtain ⟨value, hvalue⟩ := ih (hkey.resolve_left (Ne.symm hk))
      exact ⟨value, by simp [lookup?, hk, hvalue]⟩

/-- Where no key stands twice, every member is found. -/
theorem lookup?_eq_some_of_mem {members : List (String × α)}
    (hkeys : (members.map Prod.fst).Nodup) {key : String} {value : α}
    (hmem : (key, value) ∈ members) : lookup? key members = some value := by
  induction members with
  | nil => simp at hmem
  | cons member members ih =>
    obtain ⟨k, v⟩ := member
    rw [List.map_cons, List.nodup_cons] at hkeys
    rcases List.mem_cons.1 hmem with heq | htail
    · cases heq
      simp [lookup?]
    · have hne : k ≠ key := by
        rintro rfl
        exact hkeys.1 (List.mem_map.2 ⟨_, htail, rfl⟩)
      simp [lookup?, hne, ih hkeys.2 htail]

theorem filter_key_eq_singleton {members : List (String × α)}
    (hkeys : (members.map Prod.fst).Nodup) {key : String} {value : α}
    (hmem : (key, value) ∈ members) : members.filter (·.1 == key) = [(key, value)] := by
  induction members with
  | nil => simp at hmem
  | cons member members ih =>
    obtain ⟨k, v⟩ := member
    rw [List.map_cons, List.nodup_cons] at hkeys
    rcases List.mem_cons.1 hmem with heq | htail
    · cases heq
      have hothers : members.filter (·.1 == key) = [] := by
        rw [List.filter_eq_nil_iff]
        rintro ⟨k, v⟩ hother hk
        exact hkeys.1 (List.mem_map.2 ⟨_, hother, eq_of_beq hk⟩)
      simp [hothers]
    · have hne : k ≠ key := by
        rintro rfl
        exact hkeys.1 (List.mem_map.2 ⟨_, htail, rfl⟩)
      simp [hne, ih hkeys.2 htail]

theorem lookup?_perm {xs ys : List (String × α)} (hperm : xs.Perm ys)
    (hkeys : (xs.map Prod.fst).Nodup) (key : String) : lookup? key xs = lookup? key ys := by
  have hkeys' : (ys.map Prod.fst).Nodup := (hperm.map Prod.fst).nodup hkeys
  cases hfound : lookup? key ys with
  | some value => 
    exact lookup?_eq_some_of_mem hkeys (hperm.mem_iff.2 (mem_of_lookup?_eq_some hfound))
  | none =>
    cases hother : lookup? key xs with
    | none => rfl
    | some value =>
      have hmem := hperm.mem_iff.1 (mem_of_lookup?_eq_some hother)
      rw [lookup?_eq_some_of_mem hkeys' hmem] at hfound
      cases hfound

theorem lookup?_map (f : α → β) (key : String) (members : List (String × α)) :
    lookup? key (members.map fun m => (m.1, f m.2)) = (lookup? key members).map f := by
  induction members with
  | nil => rfl
  | cons member members ih =>
    obtain ⟨k, v⟩ := member
    by_cases hk : k = key
    · simp [lookup?, hk]
    · simp [lookup?, hk, ih]

theorem put_of_not_mem {key : String} {members : List (String × α)}
    (hkey : key ∉ members.map Prod.fst) (value : α) :
    put key value members = members ++ [(key, value)] := by
  induction members with
  | nil => rfl
  | cons member members ih =>
    obtain ⟨k, v⟩ := member
    rw [List.map_cons, List.mem_cons, not_or] at hkey
    simp [put, Ne.symm hkey.1, ih hkey.2]

/-- Members with different keys are put one behind the other. -/
theorem putAll_eq_append {base extra : List (String × α)}
    (hkeys : ((base ++ extra).map Prod.fst).Nodup) : putAll base extra = base ++ extra := by
  induction extra generalizing base with
  | nil => rw [List.append_nil]; rfl
  | cons member extra ih =>
    have hfresh : member.1 ∉ base.map Prod.fst := by
      rw [List.map_append, List.map_cons] at hkeys
      intro hmem
      exact (List.nodup_append.1 hkeys).2.2 _ hmem _ (by simp) rfl
    have hstep : putAll base (member :: extra) = putAll (put member.1 member.2 base) extra := rfl
    rw [hstep, put_of_not_mem hfresh, ih (by simpa using hkeys)]
    simp

end DenseSketch
