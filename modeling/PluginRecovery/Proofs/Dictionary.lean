import Mathlib
import PluginRecovery.Dictionary

/-!
Finite maps as lists of entries. A map of entries is in strictly ascending order of the names
(`ascending_ofEntries`), and a list in that order is the map of its own entries
(`ofEntries_eq_self`). A map holds only entries that it was made of (`mem_of_mem_ofEntries`), of one
name the last (`get?_ofEntries`, `get?_ofEntries_map`). A name is looked up in an overlay first in
the upper map, then in the base (`get?_overlay`).
-/

set_option autoImplicit false
set_option relaxedAutoImplicit false

namespace PluginRecovery.Dictionary

/-- An entry that is looked up is one of the list. -/
theorem mem_of_lookup {α β : Type} [BEq α] [LawfulBEq α] {entries : List (α × β)} {key : α}
    {value : β} (h : entries.lookup key = some value) : (key, value) ∈ entries := by
  obtain ⟨front, back, rfl, -⟩ := List.lookup_eq_some_iff.mp h
  exact List.mem_append_right front List.mem_cons_self

variable {α : Type}

/-- The entries are in strictly ascending order of their names. -/
def Ascending (entries : List (String × α)) : Prop :=
  entries.Pairwise fun first second ↦ first.1 < second.1

/-- A name beyond all others goes to the end. -/
theorem insert_of_forall_lt {map : Dictionary α} {name : String} {value : α}
    (h : ∀ entry ∈ map, entry.1 < name) : insert name value map = map ++ [(name, value)] := by
  induction map with
  | nil => rfl
  | cons entry map ih =>
    obtain ⟨other, old⟩ := entry
    have hother : other < name := h (other, old) List.mem_cons_self
    have hrest := ih fun e he ↦ h e (List.mem_cons_of_mem _ he)
    rw [insert, if_neg (lt_asymm hother), if_neg hother.ne', hrest]
    rfl

/-- Entries that are in order already are put behind each other. -/
theorem foldl_insert_of_ascending (map : Dictionary α) {entries : List (String × α)}
    (h : Ascending (map ++ entries)) :
    entries.foldl (fun map (name, value) ↦ insert name value map) map = map ++ entries := by
  induction entries generalizing map with
  | nil => rw [List.foldl_nil, List.append_nil]
  | cons entry entries ih =>
    obtain ⟨name, value⟩ := entry
    have hname : ∀ e ∈ map, e.1 < name :=
      fun e he ↦ (List.pairwise_append.mp h).2.2 e he _ List.mem_cons_self
    have hinsert : insert name value map = map ++ [(name, value)] := insert_of_forall_lt hname
    rw [List.append_cons, ← hinsert] at h ⊢
    exact ih _ h

/-- A map in ascending order of its names is the map of its entries. -/
theorem ofEntries_eq_self {entries : List (String × α)} (h : Ascending entries) :
    ofEntries entries = entries :=
  foldl_insert_of_ascending [] h

theorem get?_cons (name : String) (value : α) (map : Dictionary α) (other : String) :
    get? ((name, value) :: map) other = if other = name then some value else get? map other := by
  rw [get?, List.lookup_cons]
  by_cases h : other = name
  · simp [h]
  · rw [if_neg h, beq_false_of_ne h]
    rfl

/-- An insertion changes the value of its name and no other. -/
theorem get?_insert (name : String) (value : α) (map : Dictionary α) (other : String) :
    get? (insert name value map) other = if other = name then some value else get? map other := by
  induction map with
  | nil => exact get?_cons name value [] other
  | cons entry map ih =>
    obtain ⟨key, old⟩ := entry
    by_cases hlt : name < key
    · rw [insert, if_pos hlt, get?_cons]
    · by_cases hkey : name = key
      · rw [insert, if_neg hlt, if_pos hkey, get?_cons, get?_cons, ← hkey]
        split_ifs <;> rfl
      · rw [insert, if_neg hlt, if_neg hkey, get?_cons, get?_cons, ih]
        split_ifs with hother hname
        · exact absurd (hname.symm.trans hother) hkey
        · rfl
        · rfl
        · rfl

/-- Nothing but the new entry comes into a map by an insertion. -/
theorem mem_insert {name : String} {value : α} {map : Dictionary α} {entry : String × α}
    (h : entry ∈ insert name value map) : entry = (name, value) ∨ entry ∈ map := by
  induction map with
  | nil => exact .inl (List.mem_singleton.mp h)
  | cons first map ih =>
    obtain ⟨key, old⟩ := first
    rw [insert] at h
    split_ifs at h
    · exact List.mem_cons.mp h
    · exact (List.mem_cons.mp h).imp_right (List.mem_cons_of_mem _)
    · rcases List.mem_cons.mp h with rfl | h
      · exact .inr List.mem_cons_self
      · exact (ih h).imp_right (List.mem_cons_of_mem _)

/-- The names of a map are those that have a value. -/
theorem mem_names_iff {map : Dictionary α} {name : String} :
    name ∈ names map ↔ (get? map name).isSome = true := by
  rw [get?, List.lookup_isSome_iff, names, List.mem_map]
  constructor
  · rintro ⟨entry, hentry, rfl⟩
    exact ⟨entry, hentry, beq_self_eq_true entry.1⟩
  · rintro ⟨entry, hentry, hname⟩
    exact ⟨entry, hentry, (eq_of_beq hname).symm⟩

/-- The order of the names is kept. -/
theorem ascending_insert {map : Dictionary α} (h : Ascending map) (name : String) (value : α) :
    Ascending (insert name value map) := by
  induction map with
  | nil => exact List.pairwise_singleton _ _
  | cons entry map ih =>
    obtain ⟨key, old⟩ := entry
    obtain ⟨hkey, hmap⟩ := List.pairwise_cons.mp h
    rw [insert]
    split_ifs with hlt heq
    · refine List.pairwise_cons.mpr ⟨List.forall_mem_cons.mpr ⟨hlt, fun e he ↦ ?_⟩, h⟩
      exact hlt.trans (hkey e he)
    · exact List.pairwise_cons.mpr ⟨heq ▸ hkey, hmap⟩
    · refine List.pairwise_cons.mpr ⟨fun e he ↦ ?_, ih hmap⟩
      rcases mem_insert he with rfl | he
      · exact lt_of_le_of_ne (not_lt.mp hlt) (Ne.symm heq)
      · exact hkey e he

/-- A map has its names in strictly ascending order, so that each is there once. -/
theorem ascending_ofEntries (entries : List (String × α)) : Ascending (ofEntries entries) := by
  refine List.foldlRecOn entries _ List.Pairwise.nil fun map hmap entry _ ↦ ?_
  exact ascending_insert hmap entry.1 entry.2

/-- A map of given entries holds only entries of them. -/
theorem mem_of_mem_ofEntries {entries : List (String × α)} {entry : String × α}
    (h : entry ∈ ofEntries entries) : entry ∈ entries := by
  have hfold (rest : List (String × α)) (map : Dictionary α)
      (h : entry ∈ rest.foldl (fun map (name, value) ↦ insert name value map) map) :
      entry ∈ map ∨ entry ∈ rest := by
    induction rest generalizing map with
    | nil => exact .inl h
    | cons first rest ih =>
      rcases ih (insert first.1 first.2 map) h with hmap | hrest
      · rcases mem_insert hmap with rfl | hmap
        · exact .inr List.mem_cons_self
        · exact .inl hmap
      · exact .inr (List.mem_cons_of_mem first hrest)
  exact (hfold entries [] h).resolve_left List.not_mem_nil

/-- In a map of given entries a name has the value of its last entry. -/
theorem get?_ofEntries (entries : List (String × α)) (name : String) :
    get? (ofEntries entries) name = entries.reverse.lookup name := by
  induction entries using List.reverseRecOn with
  | nil => rfl
  | append_singleton entries entry ih =>
    have hlast : ofEntries (entries ++ [entry]) = insert entry.1 entry.2 (ofEntries entries) := by
      rw [ofEntries, List.foldl_append]
      rfl
    rw [hlast, get?_insert, ih, List.reverse_concat]
    exact (get?_cons entry.1 entry.2 entries.reverse name).symm

/-- When each item adds an entry, a name has the value of the last item of that name. -/
theorem get?_ofEntries_map {β : Type} (name : β → String) (value : β → α) (items : List β)
    (key : String) :
    get? (ofEntries (items.map fun item ↦ (name item, value item))) key =
      ((items.filter fun item ↦ name item = key).getLast?).map value := by
  rw [get?_ofEntries]
  induction items using List.reverseRecOn with
  | nil => rfl
  | append_singleton items item ih =>
    rw [List.map_append, List.map_singleton, List.reverse_concat, List.lookup_cons,
      List.filter_append]
    by_cases hkey : name item = key
    · simp [hkey]
    · have hother : (key == name item) = false := beq_false_of_ne (Ne.symm hkey)
      simp [hkey, hother, ih]

/-- The entries of the upper map hide those of the base. -/
theorem get?_overlay (base upper : Dictionary α) (name : String) :
    get? (overlay base upper) name = (get? upper name).or (get? base name) := by
  induction upper with
  | nil => rfl
  | cons entry upper ih =>
    obtain ⟨key, value⟩ := entry
    rw [overlay, List.foldr_cons, get?_insert, get?_cons]
    split_ifs
    · rfl
    · exact ih

end PluginRecovery.Dictionary
