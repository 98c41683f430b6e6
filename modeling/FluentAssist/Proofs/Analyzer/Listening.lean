import FluentAssist.Analyzer.Exchange
import FluentAssist.Proofs.Analyzer.Correlation
import FluentAssist.Proofs.Wire.Chunks
import Mathlib

/-!
# Listening to the analysis

The bytes of the analysis come in pieces. `receive_append` says that the cuts do not matter: two
pieces one after the other are the same as both at once. So a connection that hears the pieces of a
sequence of packets hears the packets. It handles the messages among them in their order, passes
over the bodies that are no message, and answers every request of the analysis.
-/

set_option autoImplicit false

namespace FluentAssist.Analyzer

/-! ## Steps with effects -/

/-- A step and the next one, with the effects of both. -/
def chain (first : Connection × List Effect) (next : Connection → Connection × List Effect) :
    Connection × List Effect :=
  ((next first.1).1, first.2 ++ (next first.1).2)

/-- Three steps in a row may be put together from either end. -/
theorem chain_assoc (first : Connection × List Effect)
    (next last : Connection → Connection × List Effect) :
    chain (chain first next) last = chain first fun connection => chain (next connection) last := by
  simp [chain]

/-- Only what the next step does at the state that was reached matters. -/
theorem chain_congr {first : Connection × List Effect}
    {next other : Connection → Connection × List Effect} (h : next first.1 = other first.1) :
    chain first next = chain first other := by
  rw [chain, chain, h]

namespace Connection

variable (connection : Connection)

/-- Handling a message neither uses nor changes what was not read yet. -/
theorem dispatch_withUnread (unread : List UInt8) (message : Json) :
    { connection with unread := unread }.dispatch message =
      ({ (connection.dispatch message).1 with unread := unread },
        (connection.dispatch message).2) := by
  unfold dispatch
  cases message.get? "id" with
  | none => rfl
  | some value =>
    cases (message.get? "method").bind Json.string? with
    | some method => rfl
    | none =>
      have hsame : { connection with unread := unread }.pendingId? value =
          connection.pendingId? value := rfl
      dsimp only
      rw [hsame]
      cases connection.pendingId? value with
      | none => rfl
      | some id => rfl

/-- Handling messages neither uses nor changes what was not read yet. -/
theorem dispatchAll_withUnread (unread : List UInt8) (messages : List Json) :
    { connection with unread := unread }.dispatchAll messages =
      ({ (connection.dispatchAll messages).1 with unread := unread },
        (connection.dispatchAll messages).2) := by
  induction messages generalizing connection with
  | nil => rfl
  | cons message later ih =>
    simp only [dispatchAll, dispatch_withUnread, ih]

/-- Messages one after another are handled one after another. -/
theorem dispatchAll_append (messages later : List Json) :
    connection.dispatchAll (messages ++ later) =
      chain (connection.dispatchAll messages) (·.dispatchAll later) := by
  induction messages generalizing connection with
  | nil => rfl
  | cons message messages ih =>
    simp only [List.cons_append, dispatchAll, ih, chain, List.append_assoc]

/-- Handling messages does not end a connection. -/
theorem alive_dispatchAll (messages : List Json) :
    (connection.dispatchAll messages).1.alive = connection.alive := by
  induction messages generalizing connection with
  | nil => rfl
  | cons message later ih =>
    exact (ih (connection.dispatch message).1).trans (alive_dispatch connection message)

/-! ## Pieces of a stream -/

/-- Goes on with what was not read, or ends if the stream is over. -/
def resume (left? : Option (List UInt8)) : Connection × List Effect :=
  match left? with
  | some left => ({ connection with unread := left }, [])
  | none => connection.finish

/-- A connection that is alive handles the messages in what it has and what comes, and goes on with
the rest. -/
theorem receive_of_alive {connection : Connection} (halive : connection.alive = true)
    (bytes : List UInt8) (ended : Bool) :
    connection.receive bytes ended =
      chain (connection.dispatchAll (Frame.values (Frame.readAll ended (connection.unread ++ bytes))))
        (·.resume (Frame.unread? ended (connection.unread ++ bytes))) := by
  unfold receive
  dsimp only
  rw [if_pos halive]
  cases Frame.unread? ended (connection.unread ++ bytes) with
  | some left => simp [chain, resume]
  | none => rfl

/-- A connection that has ended hears nothing. -/
theorem receive_of_not_alive {connection : Connection} (hdead : connection.alive = false)
    (bytes : List UInt8) (ended : Bool) : connection.receive bytes ended = (connection, []) := by
  simp [receive, hdead]

/-- After the end of a stream nothing more is heard. -/
theorem chain_finish_receive (bytes : List UInt8) (ended : Bool) :
    chain connection.finish (·.receive bytes ended) = connection.finish := by
  have hdead : connection.finish.1.alive = false := rfl
  simp [chain, receive_of_not_alive hdead]

/-- A stream that goes on is heard further with what was not read in front. -/
theorem receive_withUnread {connection : Connection} (halive : connection.alive = true)
    (left bytes : List UInt8) (ended : Bool) :
    { connection with unread := left }.receive bytes ended =
      chain (connection.dispatchAll (Frame.values (Frame.readAll ended (left ++ bytes))))
        (·.resume (Frame.unread? ended (left ++ bytes))) := by
  have hlive : { connection with unread := left }.alive = true := halive
  rw [receive_of_alive hlive, dispatchAll_withUnread]
  cases Frame.unread? ended (left ++ bytes) with
  | none => rfl
  | some rest => rfl

/-- Two pieces one after the other are the same as both at once. -/
theorem receive_append (bytes more : List UInt8) (ended : Bool) :
    connection.receive (bytes ++ more) ended =
      chain (connection.receive bytes false) (·.receive more ended) := by
  cases halive : connection.alive with
  | false => simp [receive_of_not_alive halive, chain]
  | true =>
    obtain ⟨hvalues, hunread⟩ := Frame.readAll_append ended (connection.unread ++ bytes) more
    rw [receive_of_alive halive, receive_of_alive halive, ← List.append_assoc, hvalues, hunread,
      dispatchAll_append, chain_assoc, chain_assoc]
    refine chain_congr ?_
    have hnext := (connection.alive_dispatchAll
      (Frame.values (Frame.readAll false (connection.unread ++ bytes)))).trans halive
    cases Frame.unread? false (connection.unread ++ bytes) with
    | none => exact (chain_finish_receive _ more ended).symm
    | some left => exact (receive_withUnread hnext left more ended).symm

/-- Hears the pieces of a stream; `ended` tells whether the stream ends after them. -/
def hear (connection : Connection) (ended : Bool) : List (List UInt8) → Connection × List Effect
  | [] => connection.receive [] ended
  | piece :: later => chain (connection.receive piece false) (·.hear ended later)

/-- It does not matter how a stream is cut. -/
theorem hear_eq_receive (ended : Bool) (pieces : List (List UInt8)) :
    connection.hear ended pieces = connection.receive pieces.flatten ended := by
  induction pieces generalizing connection with
  | nil => rfl
  | cons piece later ih =>
    rw [List.flatten_cons, receive_append, hear]
    simp only [ih]

end Connection

/-! ## Requests of the analysis -/

/-- Whether a message is a request: it has a mark and a method. -/
def isRequest (message : Json) : Bool :=
  (message.get? "id").isSome && ((message.get? "method").bind Json.string?).isSome

/-- How many settings a message asks for. -/
def askedSettings (message : Json) : Nat :=
  (((message.get? "params").bind (·.get? "items")).bind Json.items?).elim 0 List.length

/-- The answer to a request, written out: it repeats the mark of the request. Its result is a list
with nothing for every setting that is asked for, and nothing at all if the request is about
something else. -/
def IsReplyTo (message reply : Json) : Prop :=
  ∃ id method, message.get? "id" = some id ∧ message.get? "method" = some (.str method) ∧
    reply = .obj [("jsonrpc", .str "2.0"), ("id", id),
      ("result", if method = "workspace/configuration" then
          .arr (List.replicate (askedSettings message) .null)
        else .null)]

/-- A member is a text exactly if it is there and written as one. -/
theorem string?_eq_some_iff {value : Option Json} {string : String} :
    value.bind Json.string? = some string ↔ value = some (.str string) := by
  cases value with
  | none => simp
  | some value =>
    cases value <;> simp [Json.string?]

/-- The replies among effects one after another come in their order. -/
theorem repliesIn_append (effects more : List Effect) :
    repliesIn (effects ++ more) = repliesIn effects ++ repliesIn more := List.filterMap_append

/-- The result of an answer is read off the parameters of the request. -/
theorem emptyResult_params (method : String) (message : Json) :
    emptyResult method (message.get? "params") =
      if method = "workspace/configuration" then
        .arr (List.replicate (askedSettings message) .null)
      else .null := by
  unfold emptyResult askedSettings
  cases ((message.get? "params").bind (·.get? "items")).bind Json.items? with
  | none => rfl
  | some items => rfl

/-- What is written back to a request is the answer to it. -/
theorem isReplyTo_reply {message id : Json} {method : String} (hid : message.get? "id" = some id)
    (hmethod : message.get? "method" = some (.str method)) :
    IsReplyTo message (reply id method (message.get? "params")) := by
  refine ⟨id, method, hid, hmethod, ?_⟩
  rw [← emptyResult_params]
  rfl

namespace Connection

variable (connection : Connection)

/-- A request is answered, and nothing else. -/
theorem replies_dispatch (message : Json) :
    List.Forall₂ IsReplyTo ([message].filter isRequest)
      (repliesIn (connection.dispatch message).2) := by
  unfold dispatch
  cases hid : message.get? "id" with
  | none => simp [isRequest, hid, repliesIn]
  | some id =>
    cases hmethod : (message.get? "method").bind Json.string? with
    | some method =>
      have hrequest : [message].filter isRequest = [message] := by simp [isRequest, hid, hmethod]
      rw [hrequest]
      exact .cons (isReplyTo_reply hid (string?_eq_some_iff.1 hmethod)) .nil
    | none =>
      have hrequest : [message].filter isRequest = [] := by simp [isRequest, hid, hmethod]
      rw [hrequest]
      dsimp only
      cases connection.pendingId? id with
      | none => exact .nil
      | some number => exact .nil

/-- The requests among messages are answered in their order, and nothing else is. -/
theorem replies_dispatchAll (messages : List Json) :
    List.Forall₂ IsReplyTo (messages.filter isRequest)
      (repliesIn (connection.dispatchAll messages).2) := by
  induction messages generalizing connection with
  | nil => exact .nil
  | cons message later ih =>
    have heffects : (connection.dispatchAll (message :: later)).2 =
        (connection.dispatch message).2 ++
          ((connection.dispatch message).1.dispatchAll later).2 := rfl
    rw [heffects, repliesIn_append, ← List.singleton_append, List.filter_append]
    exact List.rel_append (connection.replies_dispatch message)
      (ih (connection.dispatch message).1)

/-- Going on with a stream or ending it answers nothing. -/
theorem repliesIn_resume (left? : Option (List UInt8)) :
    repliesIn (connection.resume left?).2 = [] := by
  cases left? with
  | some left => rfl
  | none => simp [resume, finish, stop, clear, repliesIn, List.filterMap_map]

/-- **Packets are heard one by one.** Each well-formed packet is taken from the stream as a whole,
and what is found depends on its body alone. So a connection that hears the packets, cut anywhere,
handles exactly the messages among them, once each and in their order, and then goes on or comes to
its end. It answers exactly the requests among them, in their order. -/
theorem hear_packets (packets : List Frame.Packet)
    (hwell : ∀ packet ∈ packets, packet.WellFormed) :
    (∀ packet ∈ packets, ∀ ended rest,
      Frame.read ended (packet.bytes ++ rest) = .ofBody packet.body rest) ∧
    ∀ (connection : Connection) (pieces : List (List UInt8)), connection.alive = true →
      connection.unread = [] → pieces.flatten = packets.flatMap Frame.Packet.bytes →
      let messages := packets.filterMap Frame.Packet.message?
      connection.hear false pieces = connection.dispatchAll messages ∧
      connection.hear true pieces = chain (connection.dispatchAll messages) finish ∧
      ∀ ended, List.Forall₂ IsReplyTo (messages.filter isRequest)
        (repliesIn (connection.hear ended pieces).2) := by
  refine ⟨fun packet hpacket => Frame.read_packet (hwell packet hpacket), ?_⟩
  intro connection pieces halive hunread hpieces messages
  have hhear (ended : Bool) : connection.hear ended pieces =
      chain (connection.dispatchAll messages) (·.resume (if ended then none else some [])) := by
    obtain ⟨hvalues, hleft⟩ := Frame.readAll_packets hwell ended
    rw [hear_eq_receive, hpieces, receive_of_alive halive, hunread, List.nil_append, hvalues, hleft]
  refine ⟨?_, hhear true, fun ended => ?_⟩
  · have hsame : { connection with unread := [] } = connection := by rw [← hunread]
    have hkeeps := connection.dispatchAll_withUnread [] messages
    rw [hsame] at hkeeps
    rw [hhear false]
    simpa [chain, resume] using hkeeps.symm
  · have hnone : repliesIn (((connection.dispatchAll messages).1.resume
        (if ended then none else some [])).2) = [] := repliesIn_resume _ _
    rw [hhear ended, chain, repliesIn_append, hnone, List.append_nil]
    exact connection.replies_dispatchAll messages

end Connection

/-- A body that is no message, and a request for two settings. Of the lengths of the request the
last one counts. -/
def settingsPackets : List Frame.Packet :=
  [⟨["X-Trace: é\r".toList, "CONTENT-LENGTH: 4\r".toList], ['\r'],
      Utf8.encode "\x7bno\x7d".toList⟩,
    ⟨["content-length:9".toList, "Content-Length: +68\r".toList], [],
      Utf8.encode ("\x7b\"id\":7,\"method\":\"workspace/configuration\"," ++
        "\"params\":\x7b\"items\":[1,2]\x7d\x7d").toList⟩]

/-- However the two packets are cut, the request is answered and nothing else happens. -/
theorem hear_settingsPackets :
    (∀ packet ∈ settingsPackets, packet.WellFormed) ∧
      ∀ pieces : List (List UInt8),
        pieces.flatten = settingsPackets.flatMap Frame.Packet.bytes →
        ({} : Connection).hear false pieces =
          ({}, [.reply (.obj [("jsonrpc", .str "2.0"), ("id", .num (.int 7)),
            ("result", .arr [.null, .null])])]) := by
  have hwell : ∀ packet ∈ settingsPackets, packet.WellFormed := by decide +kernel
  refine ⟨hwell, fun pieces hpieces => ?_⟩
  have hhear : ({} : Connection).hear false pieces =
      ({} : Connection).dispatchAll (settingsPackets.filterMap Frame.Packet.message?) :=
    ((Connection.hear_packets settingsPackets hwell).2 {} pieces rfl rfl hpieces).1
  have hmessages : settingsPackets.filterMap Frame.Packet.message? =
      [.obj [("id", .num (.int 7)), ("method", .str "workspace/configuration"),
        ("params", .obj [("items", .arr [.num (.int 1), .num (.int 2)])])]] := by
    cbv
  rw [hhear, hmessages]
  cbv

end FluentAssist.Analyzer
