import AutoReply.Number.Text

/-!
Two small replies: a choice between two things, and the time a request has taken.
-/

namespace AutoReply.Talk

open AutoReply.Number

def wouldYouRather (first second : String) : String :=
  "would you rather have unlimited " ++ first ++ ", but no more " ++ second ++
    ", or unlimited " ++ second ++ ", but no more " ++ first ++ "?"

def secondsOf (seconds nanos : Nat) : Binary64 :=
  (Binary64.ofNat seconds).add ((Binary64.ofNat nanos).divide (.ofNat 1000000000))

def pong (seconds nanos : Nat) : String :=
  "pong (" ++
    String.ofList (((secondsOf seconds nanos).multiply (.ofNat 1000)).fixed 2) ++ "ms)"

end AutoReply.Talk
