import Mathlib.Data.List.Basic
import Persistence.Session.Basic

/-! Looking up sessions by their identities. An update is seen under the identities that it is made
    for and under no other, whatever it changes besides the identity; a new session is seen only
    where no older one has its identity. -/

namespace Persistence.Sessions

variable {sessions : Sessions} {id x : SessionId} {f : Session → Session}

theorem get?_id {s : Session} (h : sessions.get? id = some s) : s.id = id := by
  simpa using List.find?_some h

theorem get?_map {g : Session → Session} (keeps : ∀ s, (g s).id = s.id) :
    get? (sessions.map g) x = (sessions.get? x).map g := by
  unfold get?
  rw [List.find?_map]
  congr 2
  funext s
  simp [keeps]

/-- A lookup sees a change that depends on the identity alone. -/
theorem get?_map_if (sessions : Sessions) {p : SessionId → Bool} (keeps : ∀ s, p s.id = true → (f s).id = s.id) :
    get? (sessions.map fun s => if p s.id then f s else s) x =
      if p x then (sessions.get? x).map f else sessions.get? x := by
  have keeps' : ∀ s : Session, (if p s.id then f s else s).id = s.id := by
    intro s
    split
    · next h => exact keeps s h
    · rfl
  rw [get?_map keeps']
  cases h : sessions.get? x with
  | none => simp
  | some s =>
    have hid := get?_id h
    subst hid
    cases hp : p s.id <;> simp [hp]

theorem get?_update (keeps : ∀ s, s.id = id → (f s).id = id) :
    (sessions.update id f).get? x = if x = id then (sessions.get? x).map f else sessions.get? x := by
  have := get?_map_if sessions (x := x) (f := f) (p := fun y => y == id) fun s hs => by
    have hs : s.id = id := by simpa using hs
    rw [keeps s hs, hs]
  simpa [update] using this

theorem get?_updateAll {ids : List SessionId} (keeps : ∀ s, (f s).id = s.id) :
    (sessions.updateAll ids f).get? x = if x ∈ ids then (sessions.get? x).map f else sessions.get? x := by
  have := get?_map_if sessions (x := x) (f := f) (p := fun y => ids.contains y) fun s _ => keeps s
  simpa [updateAll] using this

/-- What an update keeps of the session that it changes, it keeps of all. -/
theorem map_get?_update {β : Type} {g : Session → β} (keeps : ∀ s, s.id = id → (f s).id = id)
    (same : ∀ s, sessions.get? id = some s → g (f s) = g s) :
    ((sessions.update id f).get? x).map g = (sessions.get? x).map g := by
  rw [get?_update keeps]
  split
  · next h =>
    subst h
    cases hs : sessions.get? x with
    | none => rfl
    | some s => simp [same s hs]
  · rfl

theorem map_get?_updateAll {β : Type} {g : Session → β} {ids : List SessionId} (keeps : ∀ s, (f s).id = s.id)
    (same : ∀ s, g (f s) = g s) : ((sessions.updateAll ids f).get? x).map g = (sessions.get? x).map g := by
  rw [get?_updateAll keeps]
  split
  · cases sessions.get? x <;> simp [same]
  · rfl

theorem get?_append (new : Session) :
    get? (sessions ++ [new]) x = (sessions.get? x).or (if new.id = x then some new else none) := by
  unfold get?
  rw [List.find?_append]
  by_cases h : new.id = x <;> simp [h]

theorem update_of_get?_eq_none (h : sessions.get? id = none) : sessions.update id f = sessions := by
  unfold get? at h
  rw [List.find?_eq_none] at h
  unfold update
  conv_rhs => rw [← List.map_id sessions]
  apply List.map_congr_left
  intro s hs
  have := h s hs
  simp [this]

theorem isConnected_eq : sessions.isConnected x = ((sessions.get? x).map (·.isConnected)).getD false := by
  unfold isConnected
  cases sessions.get? x <;> rfl

theorem isConnected_iff : sessions.isConnected x = true ↔ ∃ s, sessions.get? x = some s ∧ s.isConnected = true := by
  rw [isConnected_eq]
  cases sessions.get? x <;> simp

end Persistence.Sessions
