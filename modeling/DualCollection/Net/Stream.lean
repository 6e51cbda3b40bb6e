import Mathlib.Logic.Function.Basic
import Mathlib.Data.List.Basic

/-!
# Stream connections

Connections of a listening socket, numbered in the order in which they were made.  A connection
waits in the listen queue until it is accepted, and connections are accepted in their order.  Each
of them carries two streams of bytes, which arrive in the order in which they were sent, in pieces
of any length; what was sent before an end was closed can still be received.
-/

namespace DualCollection

namespace Net

/-- The bytes on their way, and which ends are open. -/
structure Stream where
  /-- The bytes on their way to the accepting end. -/
  inbound : List UInt8 := []
  /-- The bytes on their way to the connecting end. -/
  outbound : List UInt8 := []
  /-- The connecting end is open. -/
  connectorOpen : Bool := true
  /-- The accepting end is open. -/
  acceptorOpen : Bool := true

/-- The connections of a listening socket. -/
structure Network where
  /-- The connections. -/
  stream : ℕ → Stream := fun _ => {}
  /-- How many connections were made. -/
  connected : ℕ := 0
  /-- How many of them were accepted. -/
  accepted : ℕ := 0

namespace Network

variable (n : Network)

/-- Change one connection. -/
def alter (k : ℕ) (f : Stream → Stream) : Network :=
  { n with stream := Function.update n.stream k (f (n.stream k)) }

/-- Make a connection; it is the one with the number `n.connected`. -/
def connect : Network := { n with connected := n.connected + 1 }

/-- Accept the next connection, if there is one; it is the one with the number `n.accepted`. -/
def accept : Option Network :=
  if n.accepted < n.connected then some { n with accepted := n.accepted + 1 } else none

/-- The connecting end sends. -/
def request (k : ℕ) (bytes : List UInt8) : Network :=
  n.alter k fun s => { s with inbound := s.inbound ++ bytes }

/-- The accepting end sends. -/
def respond (k : ℕ) (bytes : List UInt8) : Network :=
  n.alter k fun s => { s with outbound := s.outbound ++ bytes }

/-- The accepting end has received some bytes. -/
def takeInbound (k count : ℕ) : Network :=
  n.alter k fun s => { s with inbound := s.inbound.drop count }

/-- The connecting end has received some bytes. -/
def takeOutbound (k count : ℕ) : Network :=
  n.alter k fun s => { s with outbound := s.outbound.drop count }

/-- The connecting end is closed. -/
def closeConnector (k : ℕ) : Network := n.alter k fun s => { s with connectorOpen := false }

/-- The accepting end is closed. -/
def closeAcceptor (k : ℕ) : Network := n.alter k fun s => { s with acceptorOpen := false }

variable {n} {k j : ℕ} {f : Stream → Stream}

@[simp] theorem alter_connected : (n.alter k f).connected = n.connected := rfl

@[simp] theorem alter_accepted : (n.alter k f).accepted = n.accepted := rfl

@[simp] theorem alter_self : (n.alter k f).stream k = f (n.stream k) := Function.update_self ..

theorem alter_of_ne (h : j ≠ k) : (n.alter k f).stream j = n.stream j := Function.update_of_ne h ..

/-- What a change of one connection does not do to another one. -/
theorem alter_eq {α : Type} {g : Stream → α} (h : g (f (n.stream k)) = g (n.stream k)) :
    g ((n.alter k f).stream j) = g (n.stream j) := by
  by_cases hj : j = k
  · subst hj
    rw [alter_self, h]
  · rw [alter_of_ne hj]

theorem accept_eq_some {n' : Network} (h : n.accept = some n') :
    n.accepted < n.connected ∧ n' = { n with accepted := n.accepted + 1 } := by
  unfold accept at h
  split at h
  · cases h
    exact ⟨‹_›, rfl⟩
  · cases h

end Network

end Net

end DualCollection
