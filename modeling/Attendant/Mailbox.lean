/-!
# Mailboxes

A queue with room for a fixed number of items, many senders and one receiver. A sender that finds no room waits; when
the receiver takes an item, the first who waits is granted the place and may hand over his item. Once the receiver has
gone, the mailbox is shut: what is in it is lost, and every sender is refused.
-/

namespace Attendant

/-- A mailbox with items of `α` and senders named by `κ`. -/
structure Mailbox (κ α : Type) where
  capacity : Nat
  items : List α := []
  granted : List κ := []
  waiting : List κ := []
  isOpen : Bool := true
  deriving Repr

namespace Mailbox

variable {κ α : Type} [BEq κ]

/-- Whether a new sender may hand over his item at once. -/
def hasRoom (m : Mailbox κ α) : Bool := m.waiting.isEmpty && m.items.length + m.granted.length < m.capacity

/-- Puts an item at the end. -/
def push (m : Mailbox κ α) (a : α) : Mailbox κ α := { m with items := m.items ++ [a] }

/-- A sender begins to wait. -/
def wait (m : Mailbox κ α) (k : κ) : Mailbox κ α := { m with waiting := m.waiting ++ [k] }

/-- Grants a free place to the first who waits. -/
def promote (m : Mailbox κ α) : Mailbox κ α :=
  match m.waiting with
  | k :: rest =>
    if m.items.length + m.granted.length < m.capacity then
      { m with granted := m.granted ++ [k], waiting := rest }
    else m
  | [] => m

/-- The receiver takes the first item. -/
def take? (m : Mailbox κ α) : Option (α × Mailbox κ α) :=
  match m.items with
  | a :: rest => some (a, promote { m with items := rest })
  | [] => none

/-- Whether a place has been granted to a sender. -/
def isGranted (m : Mailbox κ α) (k : κ) : Bool := m.granted.contains k

/-- A sender uses the place granted to him. -/
def redeem (m : Mailbox κ α) (k : κ) (a : α) : Mailbox κ α := push { m with granted := m.granted.erase k } a

/-- A sender gives up; a place granted to him goes to the next. -/
def withdraw (m : Mailbox κ α) (k : κ) : Mailbox κ α :=
  promote { m with granted := m.granted.erase k, waiting := m.waiting.erase k }

/-- The receiver goes away. -/
def shut (m : Mailbox κ α) : Mailbox κ α := { m with items := [], isOpen := false }

end Mailbox

end Attendant
