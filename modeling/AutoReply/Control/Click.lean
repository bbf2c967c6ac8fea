import AutoReply.Chat.Message
import AutoReply.Control.Live
import AutoReply.Rule.Action

/-!
Clicking on members.
-/

namespace AutoReply.Control

open AutoReply.Chat AutoReply.Rule AutoReply.Storage

/-- Why a click is not answered. -/
inductive ClickError
  | notSaved (error : StoreError)
  deriving DecidableEq

def ClickError.message : ClickError → String
  | notSaved error => "Click counted but not saved: " ++ error.message

def clickedEntry (member : UserId) (times : UInt64) : Entry :=
  { severity := .debug
    message := "Member clicked"
    fields := [("member", .text (toString member)), ("times", .number times.toNat)] }

def clickText (clicker member : String) (times : UInt64) : String :=
  bold clicker ++ " clicks " ++ bold member ++ ". " ++ bold member ++ " has been clicked " ++
    toString times.toNat ++ " time" ++ (if times = 1 then "" else "s") ++ "."

/-- Counts a click of a user on a member. The click counts even when it cannot be saved. -/
def Live.click (live : Live) (clicker : String) (member : UserId) (memberName : String) :
    Outcome ClickError RichMessage :=
  let clicks := live.clicks.click member
  let times := clicks.count member
  { live with clicks }.answerSaved [clickedEntry member times] .notSaved
    (.untitled (clickText clicker memberName times))

end AutoReply.Control
