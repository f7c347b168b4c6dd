import VelaExternal.Lcm.MessageProperties
import VelaExternal.Systems.Run

/-!
# Publishing and handling messages

`publish` hands the bytes of a message to `lcm_publish`, and the handler stub of a
subscription hands what it decodes to the user's handler. Between them is the library of
LCM itself, which is not part of this repository. All that is asked of it is that it makes
no messages up: it may lose them, repeat them and change their order.
-/

set_option autoImplicit false

namespace VelaExternal.Lcm

open VelaExternal.Systems

section Functions

variable {Channel : Type}

inductive PublishEvent (Channel : Type) where
  | malloc (size : Int)
  | free
  | lcmPublish (channel : Channel) (data : List UInt8)
  deriving DecidableEq

/-- `block` is what `malloc` returns, and `status` what `lcm_publish` returns. Nothing is
defined where the size of the message is not an `int`. -/
def Element.publish {Value : Type} (element : Element Value) (core : CoreTypes)
    (block : Option (Memory UInt8)) (status : Int) (channel : Channel) (p : Value) :
    Option (Int × List (PublishEvent Channel)) := do
  let maxDataSize ← element.encodedSize p
  match block with
  | none => return (-1, [.malloc maxDataSize])
  | some buf =>
      let (buf, dataSize) := element.encodeMessage core p buf 0 maxDataSize
      if dataSize < 0 then
        return (dataSize, [.malloc maxDataSize, .free])
      else
        let data := window buf 0 dataSize.toNat
        return (status, [.malloc maxDataSize, .lcmPublish channel data, .free])

inductive HandlerEvent (Channel : Type) where
  | fprintf (status : Int)
  | userHandler (channel : Channel) (type : MessageType) (p : type.Value)
  | decodeCleanup (type : MessageType) (p : type.Value)
  | undefined

/-- `rbuf` is where the datagram starts. -/
def MessageType.handlerStub (type : MessageType) (core : CoreTypes) (rbuf : Memory UInt8)
    (dataSize : Int) (channel : Channel) : List (HandlerEvent Channel) :=
  match (type.element core).decodeMessage core rbuf 0 dataSize with
  | .error (.returned status) => [.fprintf status]
  | .error _ => [.undefined]
  | .ok (_, p) => [.userHandler channel type p, .decodeCleanup type p]

/-!
## Runs
-/

/-- A call of `publish`, with what `malloc` and `lcm_publish` return to it. -/
structure Publication (Channel : Type) where
  channel : Channel
  type : MessageType
  p : type.Value
  block : Option (Memory UInt8)
  status : Int

def Publication.message {Channel : Type} (publication : Publication Channel) :
    Σ type : MessageType, type.Value := ⟨publication.type, publication.p⟩

def Publication.Sendable {Channel : Type} (wire : Wire) (publication : Publication Channel) :
    Prop :=
  publication.type.Sendable wire publication.p

/-- A datagram that the library brings to a subscription. -/
structure Datagram (Channel : Type) where
  channel : Channel
  data : List UInt8

inductive Turn (Channel : Type) where
  | publish (publication : Publication Channel)
  | receive (datagram : Datagram Channel) (rbuf : Memory UInt8)

def Turn.publication : Turn Channel → Option (Publication Channel)
  | .publish publication => some publication
  | .receive _ _ => none

def Turn.datagram : Turn Channel → Option (Datagram Channel)
  | .publish _ => none
  | .receive datagram _ => some datagram

/-- What every call of `publish` has returned and done, and what every call of the handler
stub has done. -/
structure Traffic (Channel : Type) where
  published : List (Int × List (PublishEvent Channel))
  handled : List (List (HandlerEvent Channel))

def Traffic.start : Traffic Channel := ⟨[], []⟩

/-- The subscription is one to messages of `type`. -/
def Traffic.step (core : CoreTypes) (type : MessageType) (traffic : Traffic Channel) :
    Turn Channel → Option (Traffic Channel)
  | .publish publication => do
      let result ← (publication.type.element core).publish core publication.block
        publication.status publication.channel publication.p
      return { traffic with published := traffic.published ++ [result] }
  | .receive datagram rbuf =>
      let events := type.handlerStub core rbuf datagram.data.length datagram.channel
      some { traffic with handled := traffic.handled ++ [events] }

end Functions

/-!
## What becomes of a message
-/

section Outcomes

variable {Channel : Type}

/-- The message is handed over whole, and the block is freed again. -/
def Publication.outcome (wire : Wire) (publication : Publication Channel) :
    Int × List (PublishEvent Channel) :=
  let message := publication.type.message wire publication.p
  if publication.block.isSome then
    (publication.status,
      [.malloc message.length, .lcmPublish publication.channel message, .free])
  else (-1, [.malloc message.length])

def Publication.datagram (wire : Wire) (publication : Publication Channel) : Datagram Channel :=
  ⟨publication.channel, publication.type.message wire publication.p⟩

/-- What the stub of a subscription to `type` does with the message of a publication. -/
inductive Publication.HandledBy (core : CoreTypes) (type : MessageType) :
    Publication Channel → List (HandlerEvent Channel) → Prop
  | own {publication : Publication Channel} (p : type.Value)
      (same : publication.message = ⟨type, p⟩) :
      HandledBy core type publication
        [.userHandler publication.channel type p, .decodeCleanup type p]
  | foreign {publication : Publication Channel} (status : Int)
      (different : publication.type ≠ type) (negative : status < 0) :
      HandledBy core type publication [.fprintf status]
  | refused {publication : Publication Channel} (same : publication.type = type)
      (fails : core.MallocFails .undefined) : HandledBy core type publication [.undefined]

/-- A datagram comes from a publication of the run, and is handled as that. -/
def Datagram.Served (core : CoreTypes) (wire : Wire) (type : MessageType)
    (turns : List (Turn Channel)) (datagram : Datagram Channel)
    (events : List (HandlerEvent Channel)) : Prop :=
  ∃ publication, .publish publication ∈ turns ∧ publication.block.isSome ∧
    datagram = publication.datagram wire ∧
    publication.HandledBy core type events

theorem Datagram.Served.mono {core : CoreTypes} {wire : Wire} {type : MessageType}
    {turns later : List (Turn Channel)} {datagram : Datagram Channel}
    {events : List (HandlerEvent Channel)} (served : datagram.Served core wire type turns events) :
    datagram.Served core wire type (turns ++ later) events := by
  obtain ⟨publication, member, rest⟩ := served
  exact ⟨publication, List.mem_append_left later member, rest⟩

variable {core : CoreTypes} {wire : Wire} (lawful : core.Lawful wire)

include lawful

end Outcomes

/-!
## What becomes of all messages
-/

section Traffic

variable {Channel : Type} {core : CoreTypes} {wire : Wire} (lawful : core.Lawful wire)
  (type : MessageType)

/-- The past of a run has been published and handled. -/
structure Traffic.Settled (core : CoreTypes) (wire : Wire) (type : MessageType)
    (past : List (Turn Channel)) (traffic : Traffic Channel) : Prop where
  published : traffic.published =
    (past.filterMap Turn.publication).map (Publication.outcome wire)
  handled : List.Forall₂ (Datagram.Served core wire type past) (past.filterMap Turn.datagram)
    traffic.handled

/-- Only a publication with a block hands anything over, and that is its message. -/
theorem Traffic.Settled.handed {past : List (Turn Channel)} {traffic : Traffic Channel}
    (settled : traffic.Settled core wire type past) {datagram : Datagram Channel}
    {result : Int × List (PublishEvent Channel)} (member : result ∈ traffic.published)
    (handed : .lcmPublish datagram.channel datagram.data ∈ result.2) :
    ∃ publication, .publish publication ∈ past ∧ publication.block.isSome ∧
      datagram = publication.datagram wire := by
  rw [settled.published, List.mem_map] at member
  obtain ⟨publication, known, rfl⟩ := member
  obtain ⟨turn, included, found⟩ := List.mem_filterMap.mp known
  cases turn with
  | receive => cases found
  | publish =>
      obtain rfl := Option.some.inj found
      rw [Publication.outcome] at handed
      split at handed
      · next granted =>
          simp only [List.mem_cons, reduceCtorEq, PublishEvent.lcmPublish.injEq,
            List.not_mem_nil, or_false, false_or] at handed
          exact ⟨_, included, granted, by rw [Publication.datagram, ← handed.1, ← handed.2]⟩
      · simp at handed

include lawful

end Traffic

def Publication.receive (publication : Publication Unit) : Turn Unit :=
  .receive (publication.datagram bigEndianWire)
    (store (fun _ => 0) 0 (publication.datagram bigEndianWire).data)

end VelaExternal.Lcm
