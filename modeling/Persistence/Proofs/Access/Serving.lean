import Persistence.Access.Cache
import Persistence.Proofs.Access.Handled
import Persistence.Proofs.Metamodel.Views

/-! What a published reflector serves for. It is found by the classes that it was compiled from and by the names of
    properties; since the types of properties follow from these, it has the accessors that would be compiled in its
    place. Its handling of proxies does not follow from them: it is that of whoever had it compiled. -/

namespace Persistence

/-- Lists whose elements agree in what tells them apart agree in all that follows from it. -/
theorem map_eq_map_of {α β γ : Type} {f : α → β} {g : α → γ} {as bs : List α}
    (step : ∀ a ∈ as, ∀ b ∈ bs, f a = f b → g a = g b) (h : as.map f = bs.map f) : as.map g = bs.map g := by
  induction as generalizing bs with
  | nil =>
    cases bs with
    | nil => rfl
    | cons b bs => cases h
  | cons a as ih =>
    cases bs with
    | nil => cases h
    | cons b bs =>
      obtain ⟨first, rest⟩ := List.cons.inj h
      have tail := ih (fun a ha b hb => step a (List.mem_cons_of_mem _ ha) b (List.mem_cons_of_mem _ hb)) rest
      rw [List.map_cons, List.map_cons, step a List.mem_cons_self b List.mem_cons_self first, tail]

/-! ### What accessors are made of -/

/-- A property with nothing but its name and its type. -/
def Property.bare (p : Property) : Property := { p with kind := .simple, config := {}, owner := "" }

def Identity.bare : Identity → Identity
  | .single p => .single p.bare
  | .composite members => .composite (members.map Property.bare)

theorem Identity.bare_eq {identity identity' : Identity} (kind : identity.isComposite = identity'.isComposite)
    (members : identity.members.map Property.bare = identity'.members.map Property.bare) :
    identity.bare = identity'.bare := by
  cases identity with
  | single p =>
    cases identity' with
    | single q => exact congrArg Identity.single (List.cons.inj members).1
    | composite => cases kind
  | composite =>
    cases identity' with
    | single q => cases kind
    | composite => exact congrArg Identity.composite members

namespace Reflector

variable {number : Nat} {hierarchy : List Class} {properties : List Property} {identity : Identity}
  {handling : ProxyHandling} {r : Reflector}

theorem compile_of_bare : compile number hierarchy (properties.map Property.bare) identity.bare handling =
    compile number hierarchy properties identity handling := by
  have members (entity : String) :
      compileIdentity hierarchy entity identity.bare = compileIdentity hierarchy entity identity := by
    cases identity with
    | single p => rfl
    | composite members =>
      unfold compileIdentity Identity.bare
      dsimp only
      rw [List.mapM_map]
      rfl
  unfold compile
  simp only [List.mapM_map, members]
  rfl

/-- The number and the handling of a reflector have no part in its accessors. -/
theorem bare_compile : bare <$> compile number hierarchy properties identity handling =
    compile 0 hierarchy properties identity .direct := by
  unfold compile
  cases hierarchy.getLast? with
  | none => rfl
  | some cls =>
    dsimp only
    cases properties.mapM (AccessorPair.resolve hierarchy cls.name) with
    | error fault => rfl
    | ok pairs =>
      cases compileIdentity hierarchy cls.name identity with
      | error fault => rfl
      | ok access => rfl

theorem handling_compile (h : compile number hierarchy properties identity handling = .ok r) :
    r.handling = handling :=
  (assembled_of_compile h).handling

/-- A reflector is compiled for a composite identity just if it has accessors for one. -/
theorem isComposite_of_isCompiledFor (h : r.isCompiledFor properties identity = true) :
    identity.isComposite = r.identity.composite?.isSome := by
  have identified := (Bool.and_eq_true _ _ |>.mp h).2
  unfold identifierName? compositeNames? at identified
  cases identity with
  | single p =>
    cases haccess : r.identity with
    | single access => rfl
    | composite members =>
      rw [haccess] at identified
      cases identified
  | composite members =>
    cases haccess : r.identity with
    | single access =>
      rw [haccess] at identified
      cases identified
    | composite members => rfl

end Reflector

/-! ### Properties of a hierarchy -/

namespace Discovery

variable {hierarchy : List Class} {mapping mapping' : EntityMapping}

theorem transients_foldl_merge (blocks : List EntityMapping) (h : mapping.transients = mapping'.transients) :
    (blocks.foldl EntityMapping.merge mapping).transients = (blocks.foldl EntityMapping.merge mapping').transients := by
  induction blocks generalizing mapping mapping' with
  | nil => exact h
  | cons block rest ih => exact ih (congrArg (block.transients.foldl EntityMapping.addName) h)

theorem candidates_of_transients (h : mapping.transients = mapping'.transients) :
    candidates hierarchy mapping = candidates hierarchy mapping' := by
  have transient : mapping.isTransient = mapping'.isTransient := by
    unfold EntityMapping.isTransient
    rw [h]
  have offer : offered mapping = offered mapping' := by
    unfold offered isSkippedField
    rw [transient]
  unfold candidates
  rw [offer]

end Discovery

/-- The members that a hierarchy offers under any settings. -/
def Hierarchy.offered (hierarchy : List Class) : List Candidate :=
  Discovery.candidates hierarchy (({} : Settings).entityMapping (hierarchy.filterMap (·.mapping)))

theorem Hierarchy.candidates_eq_offered (settings : Settings) (hierarchy : List Class) :
    Discovery.candidates hierarchy (settings.entityMapping (hierarchy.filterMap (·.mapping))) = offered hierarchy :=
  Discovery.candidates_of_transients (Discovery.transients_foldl_merge _ rfl)

/-- A property is a member that a hierarchy offers. -/
def Property.Fits (hierarchy : List Class) (p : Property) : Prop :=
  ∃ member ∈ Hierarchy.offered hierarchy, member.name = p.name ∧ member.type = p.type

section Fits
variable {hierarchy : List Class} {settings settings' : Settings} {cls : Class} {identity identity' : Identity}
  {scanned properties properties' : List Property}

/-- The name of a property that fits a hierarchy tells its type. -/
theorem Property.Fits.bare_eq {p q : Property} (hp : p.Fits hierarchy) (hq : q.Fits hierarchy)
    (same : p.name = q.name) : p.bare = q.bare := by
  obtain ⟨member, hmember, name, type⟩ := hp
  obtain ⟨member', hmember', name', type'⟩ := hq
  have one : member = member' :=
    List.inj_on_of_nodup_map (Discovery.nodup_candidates _ _) hmember hmember' (name.trans (same.trans name'.symm))
  unfold bare
  rw [same, ← type, ← type', one]

theorem Discovery.fits_properties : ∀ p ∈ Discovery.properties settings cls hierarchy
    (settings'.entityMapping (hierarchy.filterMap (·.mapping))), p.Fits hierarchy := by
  intro p hp
  obtain ⟨candidate, hcandidate, rfl⟩ := List.mem_map.mp hp
  rw [Hierarchy.candidates_eq_offered] at hcandidate
  exact ⟨candidate, hcandidate, rfl, rfl⟩

theorem Discovery.fits_identityMember {name : String} {p : Property} (h : identityMember settings cls hierarchy
    (settings'.entityMapping (hierarchy.filterMap (·.mapping))) name = .ok p) : p.Fits hierarchy := by
  unfold identityMember at h
  rw [Hierarchy.candidates_eq_offered] at h
  split at h
  next candidate found =>
    cases h
    exact ⟨candidate, List.mem_of_find?_eq_some found, rfl, rfl⟩
  · cases h

/-- What holds of the scanned properties and of each member that is found by its name holds of the members of an
identity. -/
theorem Discovery.forall_identity {mapping : EntityMapping} {P : Property → Prop} (marked : ∀ p ∈ scanned, P p)
    (declared : ∀ name p, identityMember settings cls hierarchy mapping name = .ok p → P p)
    (h : Discovery.identity settings cls hierarchy mapping scanned = .ok identity) : ∀ p ∈ identity.members, P p := by
  have marked : ∀ p ∈ scanned.filter Property.isIdentity, P p := fun p hp => marked p (List.mem_of_mem_filter hp)
  intro p hp
  rw [Discovery.identity_eq] at h
  split at h
  · exact declared p.name p (identityMember_of_declaredIdentity h hp)
  next only =>
    cases h
    rw [only] at marked
    exact marked p hp
  · cases h
    exact marked p hp

/-- And so it holds of all that is laid out. -/
theorem Layout.forall_ofScan {layout : Layout} {mapping : EntityMapping} {P : Property → Prop}
    (marked : ∀ p ∈ scanned, P p)
    (declared : ∀ name p, Discovery.identityMember settings cls hierarchy mapping name = .ok p → P p)
    (h : Layout.ofScan settings cls hierarchy mapping scanned = .ok layout) :
    ∀ p ∈ layout.properties ++ layout.identity.members, P p := by
  obtain ⟨identity, hidentity, h⟩ := bind_eq_ok.mp h
  obtain ⟨tenant, -, h⟩ := bind_eq_ok.mp h
  cases h
  exact List.forall_mem_append.mpr
    ⟨fun p hp => marked p (List.mem_of_mem_filter hp), Discovery.forall_identity marked declared hidentity⟩

/-- Whatever is scanned of a hierarchy, what is laid out of it fits. -/
theorem Layout.fits_ofScan {layout : Layout} (fits : ∀ p ∈ scanned, p.Fits hierarchy)
    (h : Layout.ofScan settings cls hierarchy (settings'.entityMapping (hierarchy.filterMap (·.mapping))) scanned =
      .ok layout) : ∀ p ∈ layout.properties ++ layout.identity.members, p.Fits hierarchy :=
  forall_ofScan fits (fun _ _ => Discovery.fits_identityMember) h

/-- Accessors that bear the names of two layouts of one hierarchy are made of the same in both. -/
theorem Reflector.compile_of_isCompiledFor {r : Reflector} {number : Nat} {handling : ProxyHandling}
    (fits : ∀ p ∈ properties ++ identity.members, p.Fits hierarchy)
    (fits' : ∀ p ∈ properties' ++ identity'.members, p.Fits hierarchy)
    (h : r.isCompiledFor properties identity = true) (h' : r.isCompiledFor properties' identity' = true) :
    compile number hierarchy properties identity handling =
      compile number hierarchy properties' identity' handling := by
  obtain ⟨fits, fitting⟩ := List.forall_mem_append.mp fits
  obtain ⟨fits', fitting'⟩ := List.forall_mem_append.mp fits'
  obtain ⟨names, members⟩ := members_of_isCompiledFor h
  obtain ⟨names', members'⟩ := members_of_isCompiledFor h'
  have listed : properties.map Property.bare = properties'.map Property.bare :=
    map_eq_map_of (fun p hp q hq => (fits p hp).bare_eq (fits' q hq)) (names.symm.trans names')
  have identified : identity.members.map Property.bare = identity'.members.map Property.bare :=
    map_eq_map_of (fun p hp q hq => (fitting p hp).bare_eq (fitting' q hq)) (members.symm.trans members')
  have kind := (isComposite_of_isCompiledFor h).trans (isComposite_of_isCompiledFor h').symm
  rw [← compile_of_bare, listed, Identity.bare_eq kind identified, compile_of_bare]

end Fits

/-! ### Entries -/

section Entries
variable {described : Class → Prop} {handled : ProxyHandling → Prop} {cache : ReflectorCache}
  {cached : CachedReflector} {hierarchy : List Class} {properties : List Property} {identity : Identity}
  {handling : ProxyHandling}

/-- Of the classes that are described no two bear one stamp. -/
def ToldApart (described : Class → Prop) : Prop :=
  ∀ cls cls', described cls → described cls' → cls.stamp = cls'.stamp → cls = cls'

theorem ToldApart.pair {a b : Class} (ne : a.stamp ≠ b.stamp) : ToldApart fun cls => cls = a ∨ cls = b := by
  rintro _ _ (rfl | rfl) (rfl | rfl) same
  · rfl
  · exact absurd same ne
  · exact absurd same.symm ne
  · rfl

/-- An entry that was compiled for what it says it is: from described classes, for properties of theirs, and with a
handling of somebody who uses the cache. -/
inductive CachedReflector.Honest (described : Class → Prop) (handled : ProxyHandling → Prop) :
    CachedReflector → Prop where
  | compiled {number : Nat} {hierarchy : List Class} {properties : List Property} {identity : Identity}
    {handling : ProxyHandling} {r : Reflector} (classes : ∀ cls ∈ hierarchy, described cls)
    (fits : ∀ p ∈ properties ++ identity.members, p.Fits hierarchy) (handles : handled handling)
    (h : Reflector.compile number hierarchy properties identity handling = .ok r) :
    Honest described handled ⟨hierarchy.map (·.stamp), r⟩

def ReflectorCache.Honest (described : Class → Prop) (handled : ProxyHandling → Prop) (cache : ReflectorCache) :
    Prop :=
  ∀ name cached, cache.entries.get? name = some cached → cached.Honest described handled

/-- An entry that serves has the accessors that would be compiled in its place. -/
theorem CachedReflector.Honest.bare_of_serves (told : ToldApart described) (honest : cached.Honest described handled)
    (classes : ∀ cls ∈ hierarchy, described cls) (fits : ∀ p ∈ properties ++ identity.members, p.Fits hierarchy)
    (serves : cached.serves hierarchy properties identity = true) :
    Reflector.compile 0 hierarchy properties identity .direct = .ok cached.reflector.bare ∧
      handled cached.reflector.handling := by
  cases honest with
  | @compiled _ hierarchy' _ _ _ _ published publishedFits handles h =>
    obtain ⟨stamps, compiledFor⟩ := Bool.and_eq_true _ _ |>.mp serves
    have same : hierarchy' = hierarchy := by
      have mapped := map_eq_map_of (g := id) (fun cls hcls cls' hcls' =>
        told cls cls' (published cls hcls) (classes cls' hcls')) (beq_iff_eq.mp stamps)
      rwa [List.map_id, List.map_id] at mapped
    subst same
    refine ⟨?_, by rw [Reflector.handling_compile h]; exact handles⟩
    rw [Reflector.compile_of_isCompiledFor fits publishedFits compiledFor (Reflector.isCompiledFor_compile h),
      ← Reflector.bare_compile, h]
    rfl

/-- What a cache gives out has the accessors that would be compiled without one, and the handling of somebody who uses
the cache. -/
theorem ReflectorCache.Honest.getOrCompile (told : ToldApart described) (honest : cache.Honest described handled)
    (classes : ∀ cls ∈ hierarchy, described cls) (fits : ∀ p ∈ properties ++ identity.members, p.Fits hierarchy)
    (handles : handled handling) :
    Reflector.bare <$> (cache.getOrCompile hierarchy properties identity handling).1 =
      Reflector.compile 0 hierarchy properties identity .direct ∧
    (cache.getOrCompile hierarchy properties identity handling).2.1.Honest described handled ∧
    ∀ r, (cache.getOrCompile hierarchy properties identity handling).1 = .ok r → handled r.handling := by
  unfold ReflectorCache.getOrCompile
  split
  next r serving =>
    obtain ⟨name, cached, found, serves, rfl⟩ := serving?_eq_some serving
    obtain ⟨accessors, handles⟩ := (honest name cached found).bare_of_serves told classes fits serves
    refine ⟨accessors.symm, honest, fun r given => ?_⟩
    cases given
    exact handles
  · dsimp only
    split
    next r compiled =>
      refine ⟨?_, fun name cached found => ?_, fun r' given => ?_⟩
      · rw [← Reflector.bare_compile, compiled]
      · unfold publish at found
        dsimp only at found
        rw [Keyed.get?_put] at found
        split at found
        · cases found
          exact .compiled classes fits handles compiled
        · exact honest name cached found
      · cases given
        rw [Reflector.handling_compile compiled]
        exact handles
    next fault failed =>
      refine ⟨?_, honest, fun r given => by cases given⟩
      rw [← Reflector.bare_compile, failed]

end Entries
end Persistence
