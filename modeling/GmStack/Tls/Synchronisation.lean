import GmStack.Tls.Delivery

/-! Two streams in any order of calls. `Link.Tracks` relates the reader's half to the writer's by
the records on their way. -/

namespace GmStack.Tls

open Foundation Crypto List RecordStream Message Function

variable {F P : Type} [CommRing F] [AddCommGroup P] [Module F P]

/-- The ends of a connection. -/
inductive Side
  | client
  | server
  deriving DecidableEq

def Side.peer : Side → Side
  | .client => .server
  | .server => .client

variable (side : Side)

@[simp] lemma Side.peer_peer : side.peer.peer = side := by
  cases side <;> rfl

lemma Side.eq_or_eq_peer (other : Side) : other = side ∨ other = side.peer := by
  cases side <;> cases other <;> simp [Side.peer]

lemma Side.peer_ne : side.peer ≠ side := by
  cases side <;> decide

/-- The calls that the two ends make. A read goes on over records without data; the number of
records it has looked at so far is bounded by `rounds`, so that it can be observed while it waits
for the next. -/
inductive LinkCall
  | writeApplicationData (plaintext : Bytes)
  | sendKeyUpdate (requestPeerUpdate : Bool)
  | readApplicationData (rounds : ℕ)

/-- A call, who made it, and what it returned. -/
structure LinkEvent where
  side : Side
  call : LinkCall
  outcome : Except TlsError (Option Bytes)

namespace LinkEvent

def written (side : Side) (event : LinkEvent) : Option Bytes :=
  match event.call with
  | .writeApplicationData plaintext => if event.side = side then some plaintext else none
  | _ => none

def returned (side : Side) (event : LinkEvent) : Option Bytes :=
  match event.outcome with
  | .ok (some plaintext) => if event.side = side then some plaintext else none
  | _ => none

/-- The call is `read_application_data`. -/
def IsRead (event : LinkEvent) : Prop := ∃ rounds, event.call = .readApplicationData rounds

/-- The call did not fail: a write or an update is done, a read has returned data or waits for more.
-/
def Succeeds (event : LinkEvent) : Prop :=
  match event.call with
  | .readApplicationData _ =>
    (∃ plaintext, event.outcome = .ok (some plaintext)) ∨ event.outcome =
      .error RecordStream.stillReading
  | _ => event.outcome = .ok none

/-- What the sides can do and still be understood. -/
def Fits (streams : Side → GmTlsStream) (event : LinkEvent) : Prop :=
  match event.call with
  | .writeApplicationData plaintext =>
    plaintext.length ≤ Message.maxPlaintext ∧ (streams event.side).writeKey.length = 16
  | .sendKeyUpdate _ => (streams event.side).writeKey.length = 16
  | .readApplicationData _ => True

variable {event : LinkEvent}

lemma IsRead.fits (hread : event.IsRead) (streams : Side → GmTlsStream) : event.Fits streams := by
  obtain ⟨rounds, hcall⟩ := hread
  rw [Fits, hcall]
  trivial

lemma Fits.length_le {streams : Side → GmTlsStream} (hfits : event.Fits streams)
    {side : Side} {plaintext : Bytes} (hwrote : event.written side = some plaintext) :
    plaintext.length ≤ maxPlaintext := by
  unfold written at hwrote
  unfold Fits at hfits
  cases hcall : event.call with
  | writeApplicationData other =>
    rw [hcall] at hfits hwrote
    obtain ⟨-, hsame⟩ := Option.ite_none_right_eq_some.mp hwrote
    cases hsame
    exact hfits.1
  | sendKeyUpdate =>
    rw [hcall] at hwrote
    cases hwrote
  | readApplicationData =>
    rw [hcall] at hwrote
    cases hwrote

variable (event : LinkEvent)

lemma written_peer : event.written event.side.peer = none := by
  unfold written
  cases event.call with
  | writeApplicationData plaintext => exact if_neg event.side.peer_ne.symm
  | _ => rfl

lemma returned_peer : event.returned event.side.peer = none := by
  unfold returned
  rcases event.outcome with error | (_ | plaintext)
  · rfl
  · rfl
  · exact if_neg event.side.peer_ne.symm

end LinkEvent

/-- Two streams, and for each the octets it has written and its peer has not read. -/
structure Link where
  stream : Side → RecordStream
  flight : Side → Bytes

namespace Link

def fresh (streams : Side → GmTlsStream) (versions : Side → Octets 2) : Link where
  stream side := (streams side).withVersion (versions side)
  flight _ := []

def after (link : Link) (side : Side) (stream : RecordStream) (unread output : Bytes) : Link where
  stream := Function.update link.stream side stream
  flight := Function.update (Function.update link.flight side.peer unread) side
    (link.flight side ++ output)

section Library

variable (lib : TlsLibrary F P)

/-- One call of one side. -/
inductive Step (link : Link) : LinkEvent → Link → Prop
  | writeApplicationData {side : Side} {plaintext : Bytes} {script : Script} {unread : Bytes}
      {result : Except (TlsError × RecordStream) RecordStream}
      (hcall : Concludes ((link.stream side).writeApplicationData lib plaintext) script result)
      (hinput : link.flight side.peer = inbound script ++ unread) :
      Step link ⟨side, .writeApplicationData plaintext,
        result.mapError Prod.fst |>.map fun _ ↦ none⟩
        (link.after side (RecordStream.leftBehind result) unread (outbound script))
  | sendKeyUpdate {side : Side} {requestPeerUpdate : Bool} {script : Script} {unread : Bytes}
      {result : Except (TlsError × RecordStream) RecordStream}
      (hcall : Concludes ((link.stream side).sendKeyUpdate lib requestPeerUpdate) script result)
      (hinput : link.flight side.peer = inbound script ++ unread) :
      Step link ⟨side, .sendKeyUpdate requestPeerUpdate,
        result.mapError Prod.fst |>.map fun _ ↦ none⟩
        (link.after side (RecordStream.leftBehind result) unread (outbound script))
  | readApplicationData {side : Side} {rounds : ℕ} {script : Script} {unread : Bytes}
      {result : Except (TlsError × RecordStream) (Bytes × RecordStream)}
      (hcall : Concludes ((link.stream side).readApplicationData lib rounds) script result)
      (hinput : link.flight side.peer = inbound script ++ unread) :
        Step link ⟨side, .readApplicationData rounds,
          result.mapError Prod.fst |>.map fun returned ↦ some returned.1⟩
        (link.after side (RecordStream.settled result) unread (outbound script))

/-- Calls of both sides, in any order. -/
inductive Run (start : Link) : List LinkEvent → Link → Prop
  | start : Run start [] start
  | call {events : List LinkEvent} {event : LinkEvent} {link next : Link}
      (hrun : Run start events link) (hstep : Step lib link event next) :
        Run start (events ++ [event]) next

end Library

section Access

variable (link : Link) (side : Side) (stream : RecordStream) (unread output : Bytes)

@[simp] lemma after_stream_self : (link.after side stream unread output).stream side = stream :=
  update_self _ _ _

@[simp] lemma after_stream_peer : (link.after side stream unread output).stream side.peer =
    link.stream side.peer :=
  update_of_ne side.peer_ne _ _

@[simp] lemma after_flight_self : (link.after side stream unread output).flight side =
    link.flight side ++ output :=
  update_self _ _ _

@[simp] lemma after_flight_peer : (link.after side stream unread output).flight side.peer =
    unread :=
  (update_of_ne side.peer_ne _ _).trans (update_self _ _ _)

end Access

def writtenBy (side : Side) (events : List LinkEvent) : List Bytes :=
  events.filterMap (LinkEvent.written side)

def returnedTo (side : Side) (events : List LinkEvent) : List Bytes :=
  events.filterMap (LinkEvent.returned side)

variable (side : Side)

lemma writtenBy_append (events : List LinkEvent) (event : LinkEvent) :
    writtenBy side (events ++ [event]) = writtenBy side events ++ (event.written side).toList := by
  rw [writtenBy, writtenBy, filterMap_append, filterMap_cons, filterMap_nil]
  cases event.written side <;> rfl

lemma returnedTo_append (events : List LinkEvent) (event : LinkEvent) :
    returnedTo side (events ++ [event]) = returnedTo side events ++
    (event.returned side).toList := by
  rw [returnedTo, returnedTo, filterMap_append, filterMap_cons, filterMap_nil]
  cases event.returned side <;> rfl

section Library

variable (lib : TlsLibrary F P)

/-- The direction in which a side writes. -/
structure Tracks (streams : Side → GmTlsStream) (events : List LinkEvent) (link : Link)
    (side : Side) : Prop where
  progress : ∃ read unread, Message.contents read = returnedTo side.peer events ∧
    Message.contents (read ++ unread) = writtenBy side events ∧
      Half.InFlight lib (link.stream side.peer).readHalf unread (link.flight side)
      (link.stream side).writeHalf
  secret : (link.stream side.peer).readHalf.HasSecret
  writer : (streams side).writeKey.length = 16 → (link.stream side).CanWrite

variable {lib} {streams : Side → GmTlsStream} {events : List LinkEvent} {link : Link}
  {script : Script} {unread : Bytes}

lemma Tracks.sent (htracks : ∀ side, Tracks lib streams events link side) (event : LinkEvent)
    {call : StreamCall RecordStream} {messages : List Message} {next : RecordStream}
    (hsends : RecordStream.Sends lib (link.stream event.side) call messages next)
    {result : Except (TlsError × RecordStream) RecordStream}
    (hcall : Concludes call script result)
    (hinput : link.flight event.side.peer = inbound script ++ unread)
    (hwrote : (event.written event.side).toList = contents messages) :
    result = .ok next ∧ (event.outcome = .ok none → ∀ side, Tracks lib streams (events ++ [event])
      (link.after event.side (leftBehind result) unread (outbound script)) side) := by
  obtain ⟨bytes, htalks, hflight, hcan, hread⟩ := hsends
  have hin : inbound (sending bytes) ++ link.flight event.side.peer = inbound script ++ unread := by
    rw [inbound_sending, nil_append, hinput]
  obtain ⟨rfl, rfl⟩ := htalks.concludes.unique hcall hin
  rw [inbound_sending, nil_append] at hinput
  refine ⟨rfl, fun hout side ↦ ?_⟩
  have hret (side : Side) : event.returned side = none := by
    rw [LinkEvent.returned, hout]
  rcases event.side.eq_or_eq_peer side with rfl | rfl
  · obtain ⟨read, onWay, hback, hall, hhalves⟩ := (htracks event.side).progress
    constructor
    · refine ⟨read, onWay ++ messages, ?_, ?_, ?_⟩
      · rw [returnedTo_append, hret, hback]
        exact (append_nil _).symm
      · rw [writtenBy_append, hwrote, ← hall, ← append_assoc, contents_append]
      · rw [after_stream_peer, after_stream_self, after_flight_self, outbound_sending]
        exact hhalves.append hflight
    · rw [after_stream_peer]
      exact (htracks event.side).secret
    · rw [after_stream_self]
      exact fun _ ↦ hcan
  have htrack := htracks event.side.peer
  obtain ⟨read, onWay, hback, hall, hhalves⟩ := htrack.progress
  rw [Side.peer_peer] at hback hhalves
  constructor
  · refine ⟨read, onWay, ?_, ?_, ?_⟩
    · rw [returnedTo_append, hret, Side.peer_peer, hback]
      exact (append_nil _).symm
    · rw [writtenBy_append, event.written_peer, hall]
      exact (append_nil _).symm
    · rw [Side.peer_peer, after_stream_peer, after_stream_self, after_flight_peer, ← hinput]
      exact hread ▸ hhalves
  · rw [Side.peer_peer, after_stream_self]
    exact hread ▸ Side.peer_peer event.side ▸ htrack.secret
  · rw [after_stream_peer]
    exact htrack.writer

variable {side : Side} {message : Message}

lemma Tracks.fits (hevents : ∀ event ∈ events, event.Fits streams)
    {read unread : List Message} (hall : contents (read ++ unread) = writtenBy side events)
    (hmem : message ∈ unread) : message.Fits := by
  refine fits_of_contents ?_ hmem
  intro plaintext hcontent
  have hwrote : plaintext ∈ writtenBy side events := by
    rw [← hall, contents_append]
    exact mem_append_right _ hcontent
  obtain ⟨event, hevent, heq⟩ := mem_filterMap.mp hwrote
  exact (hevents event hevent).length_le heq

variable {event : LinkEvent}

lemma Tracks.read (htracks : ∀ side, Tracks lib streams events link side)
    (hevents : ∀ event ∈ events, event.Fits streams) {rounds : ℕ}
    {result : Except (TlsError × RecordStream) (Bytes × RecordStream)}
    (hcall : Concludes ((link.stream side).readApplicationData lib rounds) script result)
    (hinput : link.flight side.peer = inbound script ++ unread)
    (hevent : event = ⟨side, .readApplicationData rounds,
      (result.mapError Prod.fst).map fun returned ↦ some returned.1⟩) :
    event.Succeeds ∧ ∀ other, Tracks lib streams (events ++ [event])
      (link.after side (settled result) unread (outbound script)) other := by
  obtain ⟨read, onWay, hback, hall, hhalves⟩ := (htracks side.peer).progress
  have hsec := (htracks side.peer).secret
  rw [Side.peer_peer] at hback hhalves hsec
  obtain ⟨consumed, remaining, next, rfl, hrest, hside, hnextSecret, hsilent, hout⟩ :=
    concludes_readApplicationData lib rounds hhalves (fun _ ↦ Tracks.fits hevents hall)
      hsec hcall hinput
  have hsettled : settled result = next := by
    rcases hout with ⟨plaintext, rfl, -⟩ | ⟨rfl, -⟩ <;> rfl
  have hret : (event.returned side).toList = contents consumed := by
    rcases hout with ⟨plaintext, rfl, hcontents⟩ | ⟨rfl, hcontents⟩
    · rw [hcontents, hevent]
      simp [LinkEvent.returned, Except.map]
    · rw [hcontents, hevent]
      rfl
  have hwrote (other : Side) : event.written other = none := by
    rw [hevent]
    rfl
  refine ⟨?_, fun other ↦ ?_⟩
  · rw [hevent]
    rcases hout with ⟨plaintext, rfl, -⟩ | ⟨rfl, -⟩
    · exact .inl ⟨plaintext, rfl⟩
    · exact .inr rfl
  rw [hsettled, hsilent]
  rcases side.eq_or_eq_peer other with rfl | rfl
  · -- what the side writes is not touched
    have htrack := htracks other
    obtain ⟨read, onWay, hback, hall, hhalves⟩ := htrack.progress
    have hpeer : event.returned other.peer = none := by
      rw [hevent]
      exact LinkEvent.returned_peer _
    have hsame := hside
    simp only [writeSide, Prod.mk.injEq] at hsame
    obtain ⟨hkey, hnonce, hwriteSecret, -, hseq, hused, -⟩ := hsame
    have hhalf : next.writeHalf = (link.stream other).writeHalf := by
      rw [writeHalf, hkey, hnonce, hwriteSecret, hseq]
      rfl
    constructor
    · refine ⟨read, onWay, ?_, ?_, ?_⟩
      · rw [returnedTo_append, hpeer, hback]
        exact (append_nil _).symm
      · rw [writtenBy_append, hwrote, hall]
        exact (append_nil _).symm
      · rw [after_stream_peer, after_stream_self, after_flight_self, append_nil, hhalf]
        exact hhalves
    · rw [after_stream_peer]
      exact htrack.secret
    rw [after_stream_self]
    intro hstart
    have hcan := htrack.writer hstart
    have hmove : RecordStream.Moves lib (fun _ ↦ True) (link.stream other) next := .quiet hside
    exact ⟨hcan.numbered.moves hmove, hkey ▸ hcan.key, hhalf ▸ hcan.secret, hseq ▸ hcan.seq⟩
  constructor
  · refine ⟨read ++ consumed, remaining, ?_, ?_, ?_⟩
    · rw [Side.peer_peer, returnedTo_append, hret, contents_append, hback]
    · rw [writtenBy_append, hwrote, append_assoc, hall]
      exact (append_nil _).symm
    · rw [Side.peer_peer, after_stream_peer, after_stream_self, after_flight_peer]
      exact hrest
  · rw [Side.peer_peer, after_stream_self]
    exact hnextSecret
  · rw [after_stream_peer]
    exact (htracks side.peer).writer

variable {next : Link}

lemma Tracks.step (htracks : ∀ side, Tracks lib streams events link side)
    (hevents : ∀ event ∈ events, event.Fits streams) (hstep : Step lib link event next)
    (hevent : event.Fits streams) :
    event.Succeeds ∧ ∀ side, Tracks lib streams (events ++ [event]) next side := by
  cases hstep with
  | @writeApplicationData side plaintext script unread result hcall hinput =>
    have hcan := (htracks side).writer hevent.2
    obtain ⟨updates, written, hcontents, hsends⟩ :=
      exists_sends_writeApplicationData lib hcan plaintext
    obtain ⟨rfl, hnext⟩ := Tracks.sent htracks ⟨side, .writeApplicationData plaintext, .ok none⟩
      hsends hcall hinput (by
        rw [contents_append, hcontents]
        simp [LinkEvent.written, contents, content])
    exact ⟨rfl, hnext rfl⟩
  | @sendKeyUpdate side requestPeerUpdate script unread result hcall hinput =>
    have hcan := (htracks side).writer hevent
    obtain ⟨written, hsends, -⟩ := exists_sends_sendKeyUpdate lib hcan requestPeerUpdate
    obtain ⟨rfl, hnext⟩ := Tracks.sent htracks ⟨side, .sendKeyUpdate requestPeerUpdate, .ok none⟩
      hsends hcall hinput rfl
    exact ⟨rfl, hnext rfl⟩
  | readApplicationData hcall hinput => exact Tracks.read htracks hevents hcall hinput rfl

/-! ### Runs -/

/-- The write side of one stream is the read side of the other, with a secret of 32 octets. -/
structure Matches (writer reader : GmTlsStream) : Prop where
  key : writer.writeKey = reader.readKey
  nonce : writer.writeNonce = reader.readNonce
  secret : writer.writeTrafficSecret = reader.readTrafficSecret
  length : ∃ secret, writer.writeTrafficSecret = some secret ∧ secret.length = 32

variable {versions : Side → Octets 2}

section

variable (hmatches : ∀ side, Matches (streams side) (streams side.peer))

include hmatches

lemma tracks_fresh (side : Side) : Tracks lib streams [] (fresh streams versions) side where
  progress := by
    refine ⟨[], [], rfl, rfl, ?_⟩
    have hsame : ((fresh streams versions).stream side.peer).readHalf =
        ((fresh streams versions).stream side).writeHalf := by
      obtain ⟨hkey, hnonce, hsec, -⟩ := hmatches side
      show Half.mk (streams side.peer).readKey (streams side.peer).readNonce 0
        (streams side.peer).readTrafficSecret = _
      rw [← hkey, ← hnonce, ← hsec]
      rfl
    rw [hsame]
    exact .nil _
  secret := by
    obtain ⟨secret, hsome, hlen⟩ := (hmatches side).length
    exact ⟨secret, (hmatches side).secret.symm.trans hsome, hlen⟩
  writer := fun hkey ↦
    ⟨wellNumbered_withVersion _ _, hkey, (hmatches side).length, Nat.zero_le _⟩

lemma Run.tracks (hrun : Run lib (fresh streams versions) events link)
    (hevents : ∀ event ∈ events, event.Fits streams) :
    (∀ event ∈ events, event.Succeeds) ∧ ∀ side, Tracks lib streams events link side := by
  induction hrun with
  | start => exact ⟨fun event hmem ↦ absurd hmem not_mem_nil, tracks_fresh hmatches⟩
  | @call earlier event link next _ hstep ih =>
    obtain ⟨hsucceeds, htracks⟩ := ih fun other hmem ↦ hevents other (mem_append_left _ hmem)
    obtain ⟨hevent, hnext⟩ := Tracks.step htracks (fun other hmem ↦
      hevents other (mem_append_left _ hmem)) hstep
      (hevents event (mem_append_right _ (mem_singleton_self _)))
    refine ⟨fun other hmem ↦ ?_, hnext⟩
    rcases mem_append.mp hmem with hearlier | hlast
    · exact hsucceeds other hearlier
    · rwa [mem_singleton.mp hlast]

end

lemma exists_step_read {record rest : Bytes}
    (hseals : (link.stream side.peer).readHalf.Seals lib message record) (hfits : message.Fits)
    (hsec : (link.stream side.peer).readHalf.HasSecret)
    (hflight : link.flight side = record ++ rest) :
    ∃ event next, event.IsRead ∧ Step lib link event next ∧
      (next.stream side.peer).readHalf = (link.stream side.peer).readHalf.advance lib message ∧
        next.stream side = link.stream side ∧ next.flight side = rest ∧ next.flight side.peer =
        link.flight side.peer := by
  obtain ⟨stream, htalks, hhalf, -⟩ := exists_talks_readRecord lib hseals hfits hsec
  have hcall : ∃ result, settled result = stream ∧
      Concludes ((link.stream side.peer).readApplicationData lib 1) (receiving record) result := by
    rw [← append_nil (receiving record)]
    cases message with
    | data plaintext => exact ⟨.ok (plaintext, stream), rfl, Talks.bind htalks (Talks.pure _)⟩
    | update requestPeerUpdate =>
      exact ⟨.error (stillReading, stream), rfl,
        htalks.concludes_bind (concludes_done_iff.mpr ⟨rfl, rfl⟩)⟩
  obtain ⟨result, hsettled, hcall⟩ := hcall
  have hinput : link.flight side.peer.peer = inbound (receiving record) ++ rest := by
    rw [Side.peer_peer, inbound_receiving, hflight]
  refine ⟨_, _, ⟨1, rfl⟩, .readApplicationData hcall hinput, ?_, ?_, ?_, ?_⟩
  · rw [after_stream_self, hsettled, hhalf]
  · have hpeer := link.after_stream_peer side.peer (settled result) rest
      (outbound (receiving record))
    rwa [Side.peer_peer] at hpeer
  · have hpeer := link.after_flight_peer side.peer (settled result) rest
      (outbound (receiving record))
    rwa [Side.peer_peer] at hpeer
  · rw [after_flight_self, outbound_receiving, append_nil]

section

variable (hmatches : ∀ side, Matches (streams side) (streams side.peer))

include hmatches

lemma Run.drain_flight {half final : Half} {unread : List Message} {bytes : Bytes}
    (hflight : Half.InFlight lib half unread bytes final) (hfits : ∀ message ∈ unread, message.Fits)
    (hrun : Run lib (fresh streams versions) events link)
    (hevents : ∀ event ∈ events, event.Fits streams)
    (hhalf : (link.stream side.peer).readHalf = half) (hbytes : link.flight side = bytes) :
    ∃ reads final, (∀ event ∈ reads, event.IsRead) ∧
      Run lib (fresh streams versions) (events ++ reads) final ∧ final.flight side = [] ∧
        final.flight side.peer = link.flight side.peer := by
  induction hflight generalizing events link with
  | nil => exact ⟨[], link, fun _ hmem ↦ absurd hmem not_mem_nil, by rwa [append_nil], hbytes, rfl⟩
  | @cons half final message messages record rest hseals _ ih =>
    subst hhalf
    have hsec := ((hrun.tracks hmatches hevents).2 side).secret
    obtain ⟨event, next, hread, hstep, hnextHalf, -, hrest, hpeer⟩ :=
      exists_step_read hseals (hfits message mem_cons_self) hsec hbytes
    have hnextEvents : ∀ other ∈ events ++ [event], other.Fits streams := by
      intro other hmem
      rcases mem_append.mp hmem with hearlier | hlast
      · exact hevents other hearlier
      · rw [mem_singleton.mp hlast]
        exact hread.fits streams
    obtain ⟨reads, last, hreads, hlast, hempty, hsame⟩ :=
      ih (forall_mem_cons.mp hfits).2 (hrun.call hstep) hnextEvents hnextHalf hrest
    refine ⟨event :: reads, last, ?_, ?_, hempty, hsame.trans hpeer⟩
    · rintro other (_ | ⟨_, hmem⟩)
      · exact hread
      · exact hreads other hmem
    · rwa [append_assoc] at hlast

lemma Run.drain (hrun : Run lib (fresh streams versions) events link)
    (hevents : ∀ event ∈ events, event.Fits streams) (side : Side) :
    ∃ reads final, (∀ event ∈ reads, event.IsRead) ∧
      Run lib (fresh streams versions) (events ++ reads) final ∧ final.flight side = [] ∧
        final.flight side.peer = link.flight side.peer := by
  obtain ⟨read, unread, -, hall, hflight⟩ := ((hrun.tracks hmatches hevents).2 side).progress
  exact hrun.drain_flight hmatches hflight (fun _ ↦ Tracks.fits hevents hall) hevents rfl rfl

end

/-- What two ends want of their connection, at one moment. -/
structure Synchronised (events : List LinkEvent) (link : Link) : Prop where
  noFailure : ∀ event ∈ events, event.Succeeds
  inOrder : ∀ side, returnedTo side.peer events <+: writtenBy side events
  caughtUp : ∀ side, link.flight side = [] → (link.stream side.peer).readHalf =
    (link.stream side).writeHalf ∧
      returnedTo side.peer events = writtenBy side events

lemma Run.synchronised (hmatches : ∀ side, Matches (streams side) (streams side.peer))
    (hrun : Run lib (fresh streams versions) events link)
    (hevents : ∀ event ∈ events, event.Fits streams) : Synchronised events link := by
  obtain ⟨hsucceeds, htracks⟩ := hrun.tracks hmatches hevents
  refine ⟨hsucceeds, fun side ↦ ?_, fun side hempty ↦ ?_⟩
  · obtain ⟨read, unread, hback, hall, -⟩ := (htracks side).progress
    rw [← hback, ← hall, contents_append]
    exact prefix_append _ _
  obtain ⟨read, unread, hback, hall, hflight⟩ := (htracks side).progress
  rw [hempty] at hflight
  obtain ⟨rfl, hhalf⟩ := hflight.eq_of_nil
  rw [append_nil] at hall
  exact ⟨hhalf, hback.symm.trans hall⟩

variable (lib) in
/-- The two ends are synchronised, and so they are after the rest was read. -/
def StaysSynchronised (start : Link) (events : List LinkEvent) (link : Link) : Prop :=
  Synchronised events link ∧ ∃ reads final, (∀ event ∈ reads, event.IsRead) ∧
    Run lib start (events ++ reads) final ∧ (∀ side, final.flight side = []) ∧
    Synchronised (events ++ reads) final

lemma Step.length_returned (hstep : Step lib link event next) {plaintext : Bytes}
    (hret : event.returned side = some plaintext) :
    plaintext.length ≤ maxPlaintext := by
  cases hstep with
  | @writeApplicationData _ _ _ _ result => cases result <;> cases hret
  | @sendKeyUpdate _ _ _ _ result => cases result <;> cases hret
  | @readApplicationData _ _ _ _ result hcall =>
    cases result with
    | error => cases hret
    | ok value =>
      obtain ⟨-, hsame⟩ := Option.ite_none_right_eq_some.mp hret
      cases hsame
      exact ((concludes_readApplicationData_any lib _ hcall).2 _ _ rfl).1

lemma Run.length_returned {start : Link} (hrun : Run lib start events link)
    {plaintext : Bytes} (hret : plaintext ∈ returnedTo side events) :
    plaintext.length ≤ maxPlaintext := by
  induction hrun with
  | start => cases hret
  | call _ hstep ih =>
    rw [returnedTo_append] at hret
    rcases mem_append.mp hret with hearlier | hlast
    · exact ih hearlier
    · exact hstep.length_returned (Option.mem_toList.mp hlast)

lemma Step.unusable (hstep : Step lib link event next)
    (hnum : (link.stream side).WellNumbered) (hkey : (link.stream side).writeKey.length ≠ 16) :
    (next.stream side).WellNumbered ∧ (next.stream side).writeKey.length ≠ 16 ∧
      (event.side = side → event.Succeeds → event.IsRead) := by
  have hother (acting : Side) (stream : RecordStream) (unread output : Bytes)
    (hne : side ≠ acting) :
      (link.after acting stream unread output).stream side = link.stream side :=
    update_of_ne hne _ _
  have hmoved {stream : RecordStream} (hmoves : Relation.ReflTransGen
      (RecordStream.Moves lib fun _ ↦ True) (link.stream side) stream) :
      stream.WellNumbered ∧ stream.writeKey.length ≠ 16 :=
    ⟨hnum.moves_star hmoves, writeKey_of_moves hkey hmoves⟩
  cases hstep with
  | @writeApplicationData acting plaintext script unread result hcall =>
    by_cases hside : side = acting
    · subst hside
      obtain ⟨trace, hruns, -⟩ := hcall
      obtain ⟨hnext, hnextKey⟩ :=
        hmoved (moves_writeApplicationData trivial hnum (fun _ _ ↦ trivial) hruns)
      rw [after_stream_self]
      refine ⟨hnext, hnextKey, fun _ hsucceeds ↦ ?_⟩
      cases result with
      | error => cases hsucceeds
      | ok written => exact (not_runs_writeApplicationData hnum hkey hruns).elim
    · rw [hother _ _ _ _ hside]
      exact ⟨hnum, hkey, fun hsame ↦ absurd hsame.symm hside⟩
  | @sendKeyUpdate acting requestPeerUpdate script unread result hcall =>
    by_cases hside : side = acting
    · subst hside
      obtain ⟨trace, hruns, -⟩ := hcall
      obtain ⟨hnext, hnextKey⟩ := hmoved (moves_sendKeyUpdate hnum (fun _ ↦ trivial) hruns).1
      rw [after_stream_self]
      refine ⟨hnext, hnextKey, fun _ hsucceeds ↦ ?_⟩
      cases result with
      | error => cases hsucceeds
      | ok written => exact (not_runs_sendKeyUpdate hnum hkey hruns).elim
    · rw [hother _ _ _ _ hside]
      exact ⟨hnum, hkey, fun hsame ↦ absurd hsame.symm hside⟩
  | @readApplicationData acting rounds script unread result hcall =>
    by_cases hside : side = acting
    · subst hside
      have hquiet := (concludes_readApplicationData_any lib rounds hcall).1
      obtain ⟨hnext, hnextKey⟩ := hmoved (.single (.quiet hquiet))
      rw [after_stream_self]
      exact ⟨hnext, hnextKey, fun _ _ ↦ ⟨rounds, rfl⟩⟩
    · rw [hother _ _ _ _ hside]
      exact ⟨hnum, hkey, fun _ _ ↦ ⟨rounds, rfl⟩⟩

lemma Run.unusable (hkey : (streams side).writeKey.length ≠ 16)
    (hrun : Run lib (fresh streams versions) events link) :
    (link.stream side).WellNumbered ∧ (link.stream side).writeKey.length ≠ 16 ∧
      ∀ event ∈ events, event.side = side → event.Succeeds → event.IsRead := by
  induction hrun with
  | start =>
    exact ⟨wellNumbered_withVersion _ _, hkey, fun _ hmem ↦ absurd hmem not_mem_nil⟩
  | call _ hstep ih =>
    obtain ⟨hnum, hcurrent, hearlier⟩ := ih
    obtain ⟨hnext, hnextKey, hevent⟩ := hstep.unusable hnum hcurrent
    refine ⟨hnext, hnextKey, fun other hmem ↦ ?_⟩
    rcases mem_append.mp hmem with hmem | hlast
    · exact hearlier other hmem
    · rwa [mem_singleton.mp hlast]

lemma Run.fits (hrun : Run lib (fresh streams versions) events link)
    (hsync : Synchronised events link) (hempty : ∀ side, link.flight side = [])
    (hevent : event ∈ events) : event.Fits streams := by
  have hsucceeds := hsync.noFailure event hevent
  have husable (hsends : ¬ event.IsRead) : (streams event.side).writeKey.length = 16 := by
    by_contra hkey
    exact hsends ((hrun.unusable hkey).2.2 event hevent rfl hsucceeds)
  cases hcall : event.call with
  | writeApplicationData plaintext =>
    rw [LinkEvent.Fits, hcall]
    refine ⟨?_, husable (by rintro ⟨rounds, hread⟩; rw [hcall] at hread; cases hread)⟩
    have hwrote : plaintext ∈ writtenBy event.side events := by
      refine mem_filterMap.mpr ⟨event, hevent, ?_⟩
      rw [LinkEvent.written, hcall]
      exact if_pos rfl
    rw [← (hsync.caughtUp event.side (hempty _)).2] at hwrote
    exact hrun.length_returned hwrote
  | sendKeyUpdate requestPeerUpdate =>
    rw [LinkEvent.Fits, hcall]
    exact husable (by rintro ⟨rounds, hread⟩; rw [hcall] at hread; cases hread)
  | readApplicationData rounds => exact LinkEvent.IsRead.fits ⟨rounds, hcall⟩ streams

/-- Two streams with the same keys stay synchronised exactly when no plaintext is longer than a
reader accepts and each side that sends has an SM4 key. -/
theorem synchronised_iff (hmatches : ∀ side, Matches (streams side) (streams side.peer))
    (hrun : Run lib (fresh streams versions) events link) :
    StaysSynchronised lib (fresh streams versions) events link ↔ ∀ event ∈ events,
    event.Fits streams := by
  constructor
  · rintro ⟨-, reads, final, -, hfinal, hempty, hsynchronised⟩ event hevent
    exact hfinal.fits hsynchronised hempty (mem_append_left _ hevent)
  intro hevents
  refine ⟨hrun.synchronised hmatches hevents, ?_⟩
  obtain ⟨first, middle, hfirst, hmiddle, hclient, -⟩ := hrun.drain hmatches hevents .client
  have hmiddleEvents : ∀ event ∈ events ++ first, event.Fits streams := by
    intro event hmem
    rcases mem_append.mp hmem with hearlier | hread
    · exact hevents event hearlier
    · exact (hfirst event hread).fits streams
  obtain ⟨second, final, hsecond, hfinal, hserver, hsame⟩ :=
    hmiddle.drain hmatches hmiddleEvents .server
  have hfinalEvents : ∀ event ∈ events ++ first ++ second, event.Fits streams := by
    intro event hmem
    rcases mem_append.mp hmem with hearlier | hread
    · exact hmiddleEvents event hearlier
    · exact (hsecond event hread).fits streams
  have hsynchronised := hfinal.synchronised hmatches hfinalEvents
  rw [append_assoc] at hfinal hsynchronised
  refine ⟨first ++ second, final, ?_, hfinal, ?_, hsynchronised⟩
  · intro event hmem
    rcases mem_append.mp hmem with hread | hread
    · exact hfirst event hread
    · exact hsecond event hread
  intro side
  cases side with
  | client => exact hsame.trans hclient
  | server => exact hserver

end Library

def miniStreams : Side → GmTlsStream
  | .client => miniSide true
  | .server => miniSide false

lemma matches_miniStreams : Matches (miniStreams side) (miniStreams side.peer) := by
  cases side with
  | client => exact ⟨rfl, rfl, rfl, miniTrafficSecret true, rfl, length_replicate⟩
  | server => exact ⟨rfl, rfl, rfl, miniTrafficSecret false, rfl, length_replicate⟩

/-- Data in one direction while the other side asks for new keys: the ends stay synchronised. -/
theorem crossing_update_synchronised : ∃ link, Run miniTls (fresh miniStreams fun _ ↦ versionTls13)
        [⟨.client, .writeApplicationData [1, 2, 3], .ok none⟩,
        ⟨.server, .sendKeyUpdate true, .ok none⟩] link ∧
      StaysSynchronised miniTls (fresh miniStreams fun _ ↦ versionTls13)
        [⟨.client, .writeApplicationData [1, 2, 3], .ok none⟩,
        ⟨.server, .sendKeyUpdate true, .ok none⟩]
        link := by
  have hrun : ∃ link, Run miniTls (fresh miniStreams fun _ ↦ versionTls13)
      [⟨.client, .writeApplicationData [1, 2, 3], .ok none⟩,
      ⟨.server, .sendKeyUpdate true, .ok none⟩] link :=
    ⟨_, .call (.call .start (.writeApplicationData ⟨_, runs_feed _ [], by decide, rfl⟩ rfl))
      (.sendKeyUpdate ⟨_, runs_feed _ [], by decide, rfl⟩ rfl)⟩
  obtain ⟨link, hrun⟩ := hrun
  refine ⟨link, hrun, (synchronised_iff matches_miniStreams hrun).mpr ?_⟩
  refine forall_mem_cons.mpr ⟨⟨by decide, by decide⟩, forall_mem_singleton.mpr ?_⟩
  show (miniStreams .server).writeKey.length = 16
  decide

/-- A write of 24560 octets succeeds, and the read on the other side fails. -/
theorem long_plaintext_unreadable : ∃ link, Run miniTls (fresh miniStreams fun _ ↦ versionTls13)
        [⟨.client, .writeApplicationData (List.replicate 24560 0), .ok none⟩,
        ⟨.server, .readApplicationData 1,
            .error (.handshakeFailed "record exceeds size limit")⟩] link ∧
      ¬ Synchronised [⟨.client, .writeApplicationData (List.replicate 24560 0), .ok none⟩,
          ⟨.server, .readApplicationData 1, .error (.handshakeFailed "record exceeds size limit")⟩]
          link := by
  have hstart : Run miniTls (fresh miniStreams fun _ ↦ versionTls13) [] _ := .start
  have hcan := ((hstart.tracks matches_miniStreams (by simp)).2 .client).writer (by decide)
  obtain ⟨record, written, htalks, hseals, -⟩ := exists_talks_writeRecord miniTls hcan
    "GCM encrypt: " (.data (replicate 24560 0))
  have hinner : (data (replicate 24560 0)).inner.length = 24561 := by
    rw [Message.inner, length_append, length_replicate]
    rfl
  have hlong : ¬ (data (replicate 24560 0)).Fits := by
    rw [Message.Fits, hinner]
    decide
  have hwrite :
    Concludes (((fresh miniStreams fun _ ↦ versionTls13).stream .client).writeApplicationData
      miniTls (replicate 24560 0)) (sending record) (.ok written) := by
    rw [writeApplicationData_eq rfl (by decide)]
    exact htalks.concludes
  obtain ⟨middle, hmiddle, hflight⟩ : ∃ middle, Run miniTls (fresh miniStreams fun _ ↦ versionTls13)
      [⟨.client, .writeApplicationData (replicate 24560 0), .ok none⟩] middle ∧
      middle.flight .client = record := by
    refine ⟨_, hstart.call (.writeApplicationData hwrite (by rw [inbound_sending, nil_append])), ?_⟩
    rw [after_flight_self, outbound_sending]
    rfl
  obtain ⟨header, rest, rfl, hread⟩ := concludes_readRecord_of_long miniTls
    (middle.stream .server) hseals hlong (by rw [hinner]; decide)
  have hcall : Concludes ((middle.stream .server).readApplicationData miniTls 1) (receiving header)
      (.error (.handshakeFailed "record exceeds size limit", middle.stream .server)) :=
    hread.bind_error _
  have hinput : middle.flight .client = inbound (receiving header) ++ rest := by
    rw [hflight, inbound_receiving]
  refine ⟨_, hmiddle.call (.readApplicationData hcall hinput), fun hsynchronised ↦ ?_⟩
  rcases hsynchronised.noFailure ⟨.server, .readApplicationData 1, _⟩
    (mem_cons_of_mem _ mem_cons_self) with ⟨plaintext, hok⟩ | hwaits
  · cases hok
  · cases hwaits

end Link

end GmStack.Tls
