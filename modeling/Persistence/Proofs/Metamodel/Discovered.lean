import Persistence.Metamodel.Discovery

/-! The order of discovery. The candidates of a hierarchy are the members that its classes offer, the root first, and
    of several members of one name the first one. So their names are distinct, and what is found under a name is what
    is offered first under it. The marked ones among the properties make up the identity in that order, however many
    there are and wherever they come. -/

namespace Persistence

/-! ### Marked members -/

/-- The identity of given members, if there is any. -/
def Identity.ofMembers? : List Property → Option Identity
  | [] => none
  | [p] => some (.single p)
  | members => some (.composite members)

namespace Marked

/-- What has been taken in when a scan has come across the given members. -/
def ofMembers : List Property → Marked
  | [] => {}
  | [p] => { single := some p }
  | members => { composite := some members }

theorem join_ofMembers (members : List Property) (p : Property) : (ofMembers members).join p = ofMembers (members ++ [p]) := by
  match members with
  | [] => rfl
  | [_] => rfl
  | _ :: _ :: _ => rfl

/-- A scan comes across the marked properties, each where it stands. -/
theorem ofScan_eq (scanned : List Property) : ofScan scanned = ofMembers (scanned.filter Property.isIdentity) := by
  suffices step : ∀ members, scanned.foldl (fun marked p => if p.isIdentity then marked.join p else marked)
      (ofMembers members) = ofMembers (members ++ scanned.filter Property.isIdentity) from step []
  -- The induction is on what is still to be scanned; the members are those that have been taken in.
  induction scanned with
  | nil => exact fun members => by rw [List.filter_nil, List.append_nil, List.foldl_nil]
  | cons p rest ih =>
    intro members
    rw [List.foldl_cons, List.filter_cons]
    split
    next marked => rw [join_ofMembers, ih, List.append_assoc, List.singleton_append]
    · exact ih members

theorem identity?_ofMembers (members : List Property) : (ofMembers members).identity? = Identity.ofMembers? members := by
  match members with
  | [] => rfl
  | [_] => rfl
  | _ :: _ :: _ => rfl

end Marked

namespace Discovery

/-- The identity is made up of the marked properties, in their order, if there are any. -/
theorem identity_eq (settings : Settings) (cls : Class) (hierarchy : List Class) (mapping : EntityMapping)
    (scanned : List Property) : identity settings cls hierarchy mapping scanned =
      match scanned.filter Property.isIdentity with
      | [] => declaredIdentity settings cls hierarchy mapping
      | [p] => .ok (.single p)
      | members => .ok (.composite members) := by
  unfold identity
  rw [Marked.ofScan_eq, Marked.identity?_ofMembers]
  match scanned.filter Property.isIdentity with
  | [] => rfl
  | [_] => rfl
  | _ :: _ :: _ => rfl

/-- Erasing what came before leaves every element once. -/
theorem nodup_eraseDups {α : Type} [BEq α] [LawfulBEq α] (as : List α) : as.eraseDups.Nodup := by
  induction hn : as.length using Nat.strongRecOn generalizing as with
  | ind n ih =>
    cases as with
    | nil => exact List.nodup_nil
    | cons a rest =>
      rw [List.eraseDups_cons, List.nodup_cons]
      refine ⟨by simp [List.mem_eraseDups], ih _ ?_ _ rfl⟩
      rw [← hn]
      exact Nat.lt_succ_of_le (List.length_filter_le _ rest)

section Candidates
variable {found offers : List Candidate} {hierarchy : List Class} {mapping : EntityMapping} {n : String}

theorem any_name_eq : found.any (·.name == n) = (found.map (·.name)).contains n := by
  rw [Bool.eq_iff_iff, List.any_eq_true, List.contains_iff_mem, List.mem_map]
  simp only [beq_iff_eq]

/-- The names that are added are those that were not there, each where it comes first. -/
theorem names_foldl_addCandidate : (offers.foldl addCandidate found).map (·.name) =
    found.map (·.name) ++ ((offers.map (·.name)).filter fun n => !(found.map (·.name)).contains n).eraseDups := by
  induction offers generalizing found with
  | nil => simp
  | cons c rest ih =>
    rw [List.foldl_cons, ih, List.map_cons, List.filter_cons]
    unfold addCandidate
    rw [any_name_eq]
    cases hc : (found.map (·.name)).contains c.name with
    | true => simp
    | false =>
      simp only [Bool.not_false, if_true, Bool.false_eq_true, if_false, List.eraseDups_cons, List.filter_filter]
      rw [List.map_append, List.append_assoc, List.map_singleton, List.singleton_append]
      congr 3
      refine List.filter_congr fun n _ => ?_
      simp only [List.contains_append, List.contains_cons, List.contains_nil, Bool.or_false, Bool.not_or, Bool.and_comm]

theorem names_candidates (hierarchy : List Class) (mapping : EntityMapping) :
    (candidates hierarchy mapping).map (·.name) =
      ((hierarchy.flatMap (offered mapping)).map (·.name)).eraseDups := by
  unfold candidates
  rw [names_foldl_addCandidate, List.map_nil, List.nil_append]
  congr 1
  exact List.filter_eq_self.mpr fun _ _ => rfl

theorem nodup_candidates (hierarchy : List Class) (mapping : EntityMapping) :
    ((candidates hierarchy mapping).map (·.name)).Nodup := by
  rw [names_candidates]
  exact nodup_eraseDups _

theorem find?_foldl_addCandidate : (offers.foldl addCandidate found).find? (·.name == n) =
    (found.find? (·.name == n)).or (offers.find? (·.name == n)) := by
  induction offers generalizing found with
  | nil => simp
  | cons c rest ih =>
    rw [List.foldl_cons, ih, List.find?_cons]
    unfold addCandidate
    split
    next known =>
      -- A member of a name that is there already is passed over, and so it is by whoever looks for it.
      cases hc : c.name == n with
      | false => rfl
      | true =>
        obtain ⟨other, hother, same⟩ := List.any_eq_true.mp known
        have present : (found.find? (·.name == n)).isSome = true := by
          rw [List.find?_isSome]
          exact ⟨other, hother, by rw [beq_iff_eq.mp same]; exact hc⟩
        obtain ⟨first, hfirst⟩ := Option.isSome_iff_exists.mp present
        rw [hfirst, Option.some_or, Option.some_or]
    · rw [List.find?_append]
      cases hc : c.name == n <;> simp [hc]

theorem find?_candidates (hierarchy : List Class) (mapping : EntityMapping) (n : String) :
    (candidates hierarchy mapping).find? (·.name == n) =
      (hierarchy.flatMap (offered mapping)).find? (·.name == n) := by
  unfold candidates
  rw [find?_foldl_addCandidate, List.find?_nil, Option.none_or]

end Candidates

theorem names_properties (settings : Settings) (cls : Class) (hierarchy : List Class) (mapping : EntityMapping) :
    (properties settings cls hierarchy mapping).map (·.name) = (candidates hierarchy mapping).map (·.name) := by
  unfold properties
  rw [List.map_map]
  rfl

end Discovery
end Persistence
