import Persistence.Access.Reflector

/-!
Caches of reflectors, which several contexts may share. An entry serves only entities of the very same class
descriptions whose properties and identity have the names that it was compiled for; any other entity of its name
replaces it.
-/

namespace Persistence

/-- A published reflector and the stamps of the classes that it was compiled from. -/
structure CachedReflector where
  stamps : List Nat
  reflector : Reflector

namespace CachedReflector

/-- Whether the reflector serves the given classes, properties and identity. -/
def serves (cached : CachedReflector) (hierarchy : List Class) (properties : List Property) (identity : Identity) :
    Bool :=
  cached.stamps == hierarchy.map (·.stamp) && cached.reflector.isCompiledFor properties identity

end CachedReflector

/-- Reflectors by the names of their entities. -/
structure ReflectorCache where
  entries : Keyed CachedReflector := []
  builds : Nat := 0

namespace ReflectorCache

/-- The reflector that was last published for an entity. -/
def get? (cache : ReflectorCache) (entity : String) : Option Reflector :=
  (cache.entries.get? entity).map (·.reflector)

/-- How many entities have a reflector in the cache. -/
def size (cache : ReflectorCache) : Nat := cache.entries.length

/-- Takes an entry out and gives it back. -/
def remove (cache : ReflectorCache) (entity : String) : Option Reflector × ReflectorCache :=
  (cache.get? entity, { cache with entries := cache.entries.erase entity })

/-- Forgets all reflectors, but not how many were built. -/
def clear (cache : ReflectorCache) : ReflectorCache := { cache with entries := [] }

/-- The published reflector for the last class of a hierarchy, if it serves. -/
def serving? (cache : ReflectorCache) (hierarchy : List Class) (properties : List Property) (identity : Identity) :
    Option Reflector :=
  match hierarchy.getLast? with
  | none => none
  | some cls =>
    match cache.entries.get? cls.name with
    | some cached => if cached.serves hierarchy properties identity then some cached.reflector else none
    | none => none

/-- Enters a reflector under its entity, with the stamps of the classes it was compiled for. -/
def publish (cache : ReflectorCache) (hierarchy : List Class) (r : Reflector) : ReflectorCache where
  entries := cache.entries.put r.entity ⟨hierarchy.map (·.stamp), r⟩
  builds := cache.builds + 1

/-- The reflector for the last class of a hierarchy: the published one if it serves, or else a new one, which is
published. The reports are those of a compilation, if there is one. -/
def getOrCompile (cache : ReflectorCache) (hierarchy : List Class) (properties : List Property)
    (identity : Identity) (handling : ProxyHandling) : Except Fault Reflector × ReflectorCache × List Diagnostic :=
  match cache.serving? hierarchy properties identity with
  | some r => (.ok r, cache, [])
  | none =>
    let reports := Reflector.compileReports hierarchy properties identity
    match Reflector.compile cache.builds hierarchy properties identity handling with
    | .ok r => (.ok r, cache.publish hierarchy r, reports)
    | .error fault => (.error fault, cache, reports)

end ReflectorCache

end Persistence
