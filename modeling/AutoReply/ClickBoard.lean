import AutoReply.Chat.Id
import AutoReply.SortedMap

/-!
How often each member has been clicked.
-/

namespace AutoReply

open AutoReply.Chat

structure ClickBoard where
  counts : SortedMap UserId UInt64

namespace ClickBoard

def empty : ClickBoard := ⟨.empty⟩

def count (board : ClickBoard) (member : UserId) : UInt64 :=
  (board.counts.lookup member).getD 0

def click (board : ClickBoard) (member : UserId) : ClickBoard :=
  ⟨board.counts.insert member (board.count member + 1)⟩

end ClickBoard

end AutoReply
