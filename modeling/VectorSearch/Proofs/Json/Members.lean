import Mathlib.Data.List.Dedup
import Mathlib.Data.String.Basic
import VectorSearch.Json.Value

namespace VectorSearch.Json

variable {key name : String} {value : α} {members others : List (String × α)}

theorem find?_insertMember :
    (insertMember key value members).find? (·.1 = name) =
      if key = name then some (key, value) else members.find? (·.1 = name) := by
  induction members with
  | nil => by_cases same : key = name <;> simp [insertMember, same]
  | cons first rest ih =>
      by_cases found : first.1 = key
      · by_cases same : key = name <;> simp [insertMember, found, same]
      · rcases eq_or_ne first.1 name with rfl | elsewhere
        · simp [insertMember, found, Ne.symm found]
        · simp [insertMember, found, elsewhere, ih]

theorem mem_insertMember {member : String × α}
    (present : member ∈ insertMember key value members) :
    member = (key, value) ∨ member ∈ members := by
  induction members with
  | nil => exact .inl (List.mem_singleton.mp present)
  | cons first rest ih =>
      rw [insertMember] at present
      split at present
      · rcases List.mem_cons.mp present with same | later
        · exact .inl same
        · exact .inr (List.mem_cons_of_mem first later)
      · rcases List.mem_cons.mp present with rfl | later
        · exact .inr List.mem_cons_self
        · exact (ih later).imp_right (List.mem_cons_of_mem first)

theorem nodup_insertMember (distinct : (members.map Prod.fst).Nodup) :
    ((insertMember key value members).map Prod.fst).Nodup := by
  induction members with
  | nil => exact List.nodup_singleton key
  | cons first rest ih =>
      obtain ⟨fresh, restDistinct⟩ := List.nodup_cons.mp distinct
      rw [insertMember]
      split
      next same => exact List.nodup_cons.mpr ⟨same ▸ fresh, restDistinct⟩
      next different =>
        refine List.nodup_cons.mpr ⟨?_, ih restDistinct⟩
        intro repeated
        obtain ⟨member, present, same⟩ := List.mem_map.mp repeated
        rcases mem_insertMember present with rfl | later
        · exact different same.symm
        · exact fresh (same ▸ List.mem_map_of_mem later)

theorem insertMember_of_notMem (fresh : key ∉ members.map Prod.fst) :
    insertMember key value members = members ++ [(key, value)] := by
  induction members with
  | nil => rfl
  | cons member rest ih =>
      obtain ⟨different, later⟩ := not_or.mp (mt List.mem_cons.mpr fresh)
      rw [insertMember, if_neg (Ne.symm different), ih later, List.cons_append]

theorem lastMembers_of_nodup (distinct : (members.map Prod.fst).Nodup) :
    lastMembers members = members := by
  have added : ∀ kept : List (String × α), ((kept ++ members).map Prod.fst).Nodup →
      members.foldl (fun kept member => insertMember member.1 member.2 kept) kept =
        kept ++ members := by
    clear distinct
    induction members with
    | nil => simp
    | cons member rest ih =>
        intro kept distinct
        have fresh : member.1 ∉ kept.map Prod.fst := by
          intro repeated
          rw [List.map_append, List.map_cons] at distinct
          obtain ⟨-, -, apart⟩ := List.nodup_append.mp distinct
          exact apart _ repeated _ List.mem_cons_self rfl
        rw [List.foldl_cons, insertMember_of_notMem fresh, ih _ (by simpa using distinct),
          List.append_assoc, List.singleton_append]
  exact added [] distinct

/-- Each key once, and nothing that was not given. -/
theorem lastMembers_spec (members : List (String × α)) :
    ((lastMembers members).map Prod.fst).Nodup ∧ lastMembers members ⊆ members := by
  have kept : ∀ kept : List (String × α), (kept.map Prod.fst).Nodup →
      let last := members.foldl (fun kept member => insertMember member.1 member.2 kept) kept
      (last.map Prod.fst).Nodup ∧ last ⊆ kept ++ members := by
    induction members with
    | nil => exact fun kept distinct => ⟨distinct, by simp⟩
    | cons member rest ih =>
        intro kept distinct
        obtain ⟨nodup, subset⟩ := ih _ (nodup_insertMember distinct)
        refine ⟨nodup, fun other present => ?_⟩
        rcases List.mem_append.mp (subset present) with inserted | later
        · rcases mem_insertMember inserted with rfl | before
          · exact List.mem_append_right kept List.mem_cons_self
          · exact List.mem_append_left _ before
        · exact List.mem_append_right kept (List.mem_cons_of_mem member later)
  exact kept [] .nil

theorem sortedMembers_perm (members : List (String × α)) :
    (sortedMembers members).Perm (lastMembers members) :=
  List.mergeSort_perm ..

theorem sortedMembers_sorted (members : List (String × α)) :
    (sortedMembers members).Pairwise fun member other => member.1 ≤ other.1 := by
  have sorted := @List.pairwise_mergeSort _
    (fun member other : String × α => decide (member.1 ≤ other.1))
    (fun a b c first second =>
      decide_eq_true (String.le_trans (of_decide_eq_true first) (of_decide_eq_true second)))
    (fun a b => by simpa using String.le_total a.1 b.1) (lastMembers members)
  exact sorted.imp of_decide_eq_true

theorem mem_of_mem_sortedMembers {member : String × α}
    (present : member ∈ sortedMembers members) : member ∈ members :=
  (lastMembers_spec members).2 ((sortedMembers_perm members).subset present)

theorem sortedMembers_nodup (members : List (String × α)) :
    ((sortedMembers members).map Prod.fst).Nodup :=
  ((sortedMembers_perm members).map Prod.fst).nodup_iff.mpr (lastMembers_spec members).1

/-- Members with distinct keys come out in one order, whatever order they are in. -/
theorem sortedMembers_eq_of_perm (distinct : (members.map Prod.fst).Nodup)
    (reordered : members.Perm others) : sortedMembers members = sortedMembers others := by
  have keys : (others.map Prod.fst).Nodup := (reordered.map Prod.fst).nodup_iff.mp distinct
  have left := sortedMembers_perm members
  have right := sortedMembers_perm others
  rw [lastMembers_of_nodup distinct] at left
  rw [lastMembers_of_nodup keys] at right
  refine List.Perm.eq_of_pairwise ?_ (sortedMembers_sorted members) (sortedMembers_sorted others)
    (left.trans (reordered.trans right.symm))
  intro member other here there below above
  exact List.inj_on_of_nodup_map distinct (left.subset here)
    (reordered.symm.subset (right.subset there)) (String.le_antisymm below above)

theorem sortedMembers_of_sorted (distinct : (members.map Prod.fst).Nodup)
    (sorted : members.Pairwise fun member other => member.1 ≤ other.1) :
    sortedMembers members = members := by
  rw [sortedMembers, lastMembers_of_nodup distinct]
  exact List.mergeSort_of_pairwise (sorted.imp decide_eq_true)

theorem sortedMembers_sortedMembers (members : List (String × α)) :
    sortedMembers (sortedMembers members) = sortedMembers members :=
  sortedMembers_of_sorted (sortedMembers_nodup members) (sortedMembers_sorted members)

end VectorSearch.Json
