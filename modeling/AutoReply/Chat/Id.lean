/-!
Numbers that identify users, channels, messages and emojis.
-/

namespace AutoReply.Chat

structure UserId where
  number : UInt64
  deriving DecidableEq, Inhabited

structure ChannelId where
  number : UInt64
  deriving DecidableEq, Inhabited

structure MessageId where
  number : UInt64
  deriving DecidableEq, Inhabited

structure EmojiId where
  number : UInt64
  deriving DecidableEq, Inhabited

instance : Ord UserId := ⟨fun left right => compare left.number right.number⟩

instance : Std.TransOrd UserId where
  eq_swap {left right} := @Std.OrientedCmp.eq_swap UInt64 compare _ left.number right.number
  isLE_trans {first second third} :=
    @Std.TransCmp.isLE_trans UInt64 compare _ first.number second.number third.number

instance : Std.LawfulEqOrd UserId where
  eq_of_compare {left right} same := by
    cases left; cases right
    exact congrArg UserId.mk (Std.LawfulEqOrd.eq_of_compare same)
  compare_self {self} := @Std.ReflCmp.compare_self UInt64 compare _ self.number

instance : Ord ChannelId := ⟨fun left right => compare left.number right.number⟩

instance : Std.TransOrd ChannelId where
  eq_swap {left right} := @Std.OrientedCmp.eq_swap UInt64 compare _ left.number right.number
  isLE_trans {first second third} :=
    @Std.TransCmp.isLE_trans UInt64 compare _ first.number second.number third.number

instance : Std.LawfulEqOrd ChannelId where
  eq_of_compare {left right} same := by
    cases left; cases right
    exact congrArg ChannelId.mk (Std.LawfulEqOrd.eq_of_compare same)
  compare_self {self} := @Std.ReflCmp.compare_self UInt64 compare _ self.number

instance : ToString UserId := ⟨fun user => toString user.number.toNat⟩
instance : ToString ChannelId := ⟨fun channel => toString channel.number.toNat⟩
instance : ToString MessageId := ⟨fun message => toString message.number.toNat⟩
instance : ToString EmojiId := ⟨fun emoji => toString emoji.number.toNat⟩

end AutoReply.Chat
