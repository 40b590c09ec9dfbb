/-!
# Shutdown

Whoever runs long subscribes to a shutdown channel, and a trigger on the channel reaches every
subscription. A channel keeps the last signal only. A subscription that has missed some is first
told how many, and then gets the one that is kept.

A channel is reached through handles. A clone of a handle reaches the channel of that handle, and a
new handle has a channel of its own. Handles and subscriptions are numbered as they are made.
-/

namespace MetadataGateway.Shutdown

/-- A subscription: its channel, and how many of the signals sent there are behind it. -/
structure Subscription where
  channel : Nat
  position : Nat
deriving DecidableEq, Repr

/-- The channels, handles and subscriptions that have been made. -/
structure State where
  /-- How many signals each channel has sent. -/
  channels : List Nat
  /-- The channel of each handle. -/
  handles : List Nat
  /-- The subscriptions; a dropped one leaves its place. -/
  subscriptions : List (Option Subscription)
deriving DecidableEq, Repr

/-- One handle to one channel. -/
def State.initial : State := ⟨[0], [0], []⟩

/-- What a subscription finds when it looks for a signal. -/
inductive Reception where
  | signal
  | empty
  /-- So many signals have been missed. -/
  | lagged (missed : Nat)
deriving DecidableEq, Repr

/-- What is done with handles and subscriptions. -/
inductive Command where
  | subscribe (handle : Nat)
  | clone (handle : Nat)
  | create
  | trigger (handle : Nat)
  | drop (subscription : Nat)
  | poll (subscription : Nat)
deriving DecidableEq, Repr

/-- What comes of a command. -/
inductive Result where
  /-- The handle or subscription of this number has been made. -/
  | made (number : Nat)
  /-- So many subscriptions have been notified. -/
  | notified (count : Nat)
  | dropped
  | received (r : Reception)
  /-- There is no such handle or live subscription. -/
  | absent
deriving DecidableEq, Repr

namespace State

/-- How many signals a channel has sent. -/
def sent (s : State) (channel : Nat) : Nat :=
  s.channels.getD channel 0

/-- Whether a place holds a live subscription to a channel. -/
def isOn (channel : Nat) (place : Option Subscription) : Bool :=
  place.any fun sub => sub.channel == channel

/-- How many live subscriptions a channel has. -/
def receivers (s : State) (channel : Nat) : Nat :=
  s.subscriptions.countP (isOn channel)

/-- How many live subscriptions the channel of each handle has. -/
def receiverCounts (s : State) : List Nat :=
  s.handles.map s.receivers

/-- The live subscription of a number. -/
def subscription? (s : State) (n : Nat) : Option Subscription :=
  s.subscriptions[n]?.join

/-- A new subscription to a channel, behind all that has been sent there. -/
def subscribe (s : State) (channel : Nat) : State :=
  { s with subscriptions := s.subscriptions ++ [some ⟨channel, s.sent channel⟩] }

/-- A new handle to a channel. -/
def handle (s : State) (channel : Nat) : State :=
  { s with handles := s.handles ++ [channel] }

/-- A new handle to a new channel. -/
def create (s : State) : State :=
  { s with channels := s.channels ++ [0], handles := s.handles ++ [s.channels.length] }

/-- A signal on a channel; where nobody listens nothing is sent. -/
def trigger (s : State) (channel : Nat) : State :=
  if s.receivers channel = 0 then s
  else { s with channels := s.channels.set channel (s.sent channel + 1) }

/-- A subscription put into the place of a number. -/
def place (s : State) (n : Nat) (sub : Option Subscription) : State :=
  { s with subscriptions := s.subscriptions.set n sub }

end State

/-- What a subscription finds on a channel that has sent so many signals, and its position then. -/
def receive (sent position : Nat) : Reception × Nat :=
  if sent ≤ position then (.empty, position)
  else if sent = position + 1 then (.signal, sent)
  else (.lagged (sent - 1 - position), sent - 1)

/-- Carry out a command. -/
def step (s : State) : Command → Result × State
  | .subscribe h =>
    match s.handles[h]? with
    | some c => (.made s.subscriptions.length, s.subscribe c)
    | none => (.absent, s)
  | .clone h =>
    match s.handles[h]? with
    | some c => (.made s.handles.length, s.handle c)
    | none => (.absent, s)
  | .create => (.made s.handles.length, s.create)
  | .trigger h =>
    match s.handles[h]? with
    | some c => (.notified (s.receivers c), s.trigger c)
    | none => (.absent, s)
  | .drop n =>
    match s.subscription? n with
    | some _ => (.dropped, s.place n none)
    | none => (.absent, s)
  | .poll n =>
    match s.subscription? n with
    | some sub =>
      let (r, position) := receive (s.sent sub.channel) sub.position
      (.received r, s.place n (some { sub with position }))
    | none => (.absent, s)

/-- Carry out commands in order: their results, and the state behind them. -/
def run : List Command → State → List Result × State
  | [], s => ([], s)
  | c :: rest, s =>
    let (result, s) := step s c
    let (results, s) := run rest s
    (result :: results, s)

end MetadataGateway.Shutdown
