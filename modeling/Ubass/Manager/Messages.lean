import Ubass.Packets

/-!
# Messages of a stream

What the manager tells the application about a stream, and the events its send
loop waits for (`utils/messages.rs`).
-/

set_option autoImplicit false

namespace Ubass

structure StreamMessage where
  head : Nat
  paused : Bool
  closed : Bool
  complete : Option Bool
  approved : Option Bool
  bufferClosed : Bool
deriving DecidableEq

def StreamMessage.default : StreamMessage where
  head := 0
  paused := false
  closed := false
  complete := none
  approved := none
  bufferClosed := false

inductive PlaybackControl where
  | play
  | pause
  | close
  | done
  | seek (position : BytePosition)
deriving DecidableEq

inductive StreamEvent where
  | playback (control : PlaybackControl)
  | retransmit (ranges : List ByteRange)
deriving DecidableEq

def StreamEvent.default : StreamEvent := .playback .play

/-- `PlaybackControl::from(PlaybackControlPacket)` -/
def PlaybackControl.fromPacket (value : PlaybackControlPacket) : PlaybackControl :=
  match value.controlType with
  | .play => .play
  | .pause => .pause
  | .close => .close
  | .done => .done
  | .seek => .seek value.seekPosition

/-- `StreamEvent::from(PlaybackControlPacket)` -/
def StreamEvent.fromPacket (value : PlaybackControlPacket) : StreamEvent :=
  .playback (PlaybackControl.fromPacket value)

end Ubass
