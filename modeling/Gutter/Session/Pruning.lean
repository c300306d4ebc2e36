import Gutter.Session.Drawing

/-!
# Pruning

Editors out of sight are remembered for a while. When there are too many of them, all of them are
forgotten at once.
-/

namespace Gutter.Session

def markersOf (entries : List (EditorId × Entry)) : List MarkerId :=
  entries.flatMap fun x => x.2.markers

def close (keep : EditorId → Bool) (s : Session) : Session :=
  (s.forget keep).release (markersOf (s.dropped keep))

def isCrowded (slack : UInt64) (cached visible : Nat) : Bool := slack.toNat ≤ cached - visible

/-- Forgets the editors that are not visible if there are too many of them. -/
def prune (slack : UInt64) (visible : List EditorId) (s : Session) : Session × Nat :=
  if isCrowded slack s.cache.size visible.length then
    let keep := fun editor => decide (editor ∈ visible)
    let n := (s.dropped keep).length
    let s := (s.close keep).count (.countEvicted (UInt64.ofNat n))
    (s.note (.evicted n s.cache.size), n)
  else (s, 0)

end Gutter.Session
