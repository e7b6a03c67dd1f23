import SessionGateway.Wire.Basic
import SessionGateway.Wire.Reader

/-!
# Channel opens

A peer opens a channel by naming its kind and attaching a payload. Sessions need no payload,
forwards carry their destination, and every other kind is turned away.
-/

namespace SessionGateway

open Wire

inductive ChannelKind where
  | session
  | directTcpip
  | unknown (name : String)
  deriving DecidableEq, Repr

namespace ChannelKind

def ofName (name : String) : ChannelKind :=
  if name = "session" then .session
  else if name = "direct-tcpip" then .directTcpip
  else .unknown name

def name : ChannelKind → String
  | .session => "session"
  | .directTcpip => "direct-tcpip"
  | .unknown name => name

end ChannelKind

inductive RejectionReason where
  | prohibited
  | connectionFailed
  | unknownChannelType
  | resourceShortage
  deriving DecidableEq, Repr

namespace RejectionReason

def code : RejectionReason → UInt32
  | .prohibited => 1
  | .connectionFailed => 2
  | .unknownChannelType => 3
  | .resourceShortage => 4

def text : RejectionReason → String
  | .prohibited => "administratively prohibited"
  | .connectionFailed => "connect failed"
  | .unknownChannelType => "unknown channel type"
  | .resourceShortage => "resource shortage"

end RejectionReason

/-- The payload of a forward: where the peer wants to go, and where its own client came from. -/
structure ForwardOpen where
  host : String
  port : UInt16
  originatorAddress : String
  originatorPort : UInt32
  deriving DecidableEq, Repr

namespace ForwardOpen

def fields (o : ForwardOpen) : List Field :=
  [.text o.host, .u32 (UInt32.ofNat o.port.toNat), .text o.originatorAddress,
   .u32 o.originatorPort]

/-- Reads the payload to its end; the port's range is looked at last. -/
def read : Reader ForwardOpen := do
  let host ← Reader.text "host"
  let port ← Reader.u32 "port"
  let originatorAddress ← Reader.text "originator_address"
  let originatorPort ← Reader.u32 "originator_port"
  Reader.finish
  if port.toNat < UInt16.size then
    return ⟨host, UInt16.ofNat port.toNat, originatorAddress, originatorPort⟩
  else
    Reader.fail (.portOutOfRange port)

def decode (payload : Bytes) : Except Wire.Error ForwardOpen :=
  read.run payload

end ForwardOpen

end SessionGateway
