/-!
# Cursors

How far a pull of one naming context has come. A pull starts at zero and only ever takes over the
server's new cursor.
-/

namespace DirectoryPull

structure Cursor where
  /-- Highest update number seen in the running cycle. -/
  current : UInt64
  reserved : UInt64
  /-- Highest update number of the last complete cycle. -/
  completed : UInt64
deriving DecidableEq

namespace Cursor

def zero : Cursor := ⟨0, 0, 0⟩

/-- No component of `next` is lower. -/
def isAdvancedBy (c next : Cursor) : Bool :=
  c.current ≤ next.current && c.reserved ≤ next.reserved && c.completed ≤ next.completed

def text (c : Cursor) : String := s!"{c.current}/{c.reserved}/{c.completed}"

end Cursor

end DirectoryPull
