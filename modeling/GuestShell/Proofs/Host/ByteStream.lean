import GuestShell.Program.Basic
import GuestShell.Proofs.Display.Action
import GuestShell.Proofs.Manager.Run
import GuestShell.Proofs.Wire.Stream

/-!
# The byte stream to the host

What the host gets is bytes.  Requests are encoded one by one and wait in a queue, the queue is
drained from time to time, and what was drained is written to the socket one after another.
Nothing marks where a message ends but the size in its own header.

A queue hands out what was sent, in that order and once, and keeps the rest
(`handedOut_append_waiting`).  Together with the laws of `Message.splitAll` this makes the stream
self-framing: the host finds the messages that were sent, whenever the queue was drained.

Nothing is claimed of a socket that the host has closed; what is written to it is refused and
lost.
-/

namespace GuestShell

open Wire

/-- What is done with a queue. -/
inductive QueueStep where
  | send (message : List UInt8)
  | drain

/-- The messages that are sent, in order. -/
def QueueStep.sent (steps : List QueueStep) : List (List UInt8) :=
  steps.filterMap fun
    | .send message => some message
    | .drain => none

namespace Queue

/-- What a step hands out, and the queue that it leaves. -/
def perform (q : Queue) : QueueStep → List (List UInt8) × Queue
  | .send message => ([], (HostChannel.send message q).2)
  | .drain => q.drain

/-- Everything that a queue hands out, oldest first. -/
def handedOut : Queue → List QueueStep → List (List UInt8)
  | _, [] => []
  | q, step :: steps => (q.perform step).1 ++ handedOut (q.perform step).2 steps

/-- The queue after some steps. -/
def performAll (q : Queue) (steps : List QueueStep) : Queue :=
  steps.foldl (fun q step => (q.perform step).2) q

/-- What waited and what is sent is handed out or waits in the end, in the same order. -/
theorem handedOut_append_waiting (q : Queue) (steps : List QueueStep) :
    q.handedOut steps ++ (q.performAll steps).waiting = q.waiting ++ QueueStep.sent steps := by
  induction steps generalizing q with
  | nil => simp [handedOut, performAll, QueueStep.sent]
  | cons step steps ih =>
      have hlater := ih (q.perform step).2
      simp only [handedOut, performAll, List.foldl_cons, List.append_assoc] at hlater ⊢
      rw [hlater]
      cases step with
      | send message =>
          simp [perform, HostChannel.send, push, QueueStep.sent]
      | drain => simp [perform, drain, empty, QueueStep.sent]

theorem handedOut_append (q : Queue) (xs ys : List QueueStep) :
    q.handedOut (xs ++ ys) = q.handedOut xs ++ (q.performAll xs).handedOut ys := by
  induction xs generalizing q with
  | nil => rfl
  | cons step steps ih =>
      simp only [List.cons_append, handedOut, ih, performAll, List.foldl_cons, List.append_assoc]

/-- A new queue has handed out the messages that were sent first. -/
theorem handedOut_empty (steps : List QueueStep) :
    empty.handedOut steps = (QueueStep.sent steps).take (empty.handedOut steps).length := by
  rw [← List.nil_append (QueueStep.sent steps), ← show empty.waiting = [] from rfl,
    ← handedOut_append_waiting, List.take_left]

/-- After it was drained, a new queue has handed out all of them. -/
theorem handedOut_empty_drain (steps : List QueueStep) :
    empty.handedOut (steps ++ [.drain]) = QueueStep.sent steps := by
  have hlast : ∀ q : Queue, q.handedOut [.drain] = q.waiting := by
    intro q
    simp only [handedOut, perform, drain, List.append_nil]
  rw [handedOut_append, hlast, handedOut_append_waiting]
  rfl

end Queue

/-! ### Messages that were encoded -/

namespace Wire.Message

/-- The byte strings are what the messages were encoded as, one by one. -/
def EncodedAs (messages : List Message) (encoded : List (List UInt8)) : Prop :=
  List.Forall₂ (fun m bytes => m.encode = .ok bytes) messages encoded

namespace EncodedAs

variable {messages : List Message} {encoded : List (List UInt8)}

theorem size_le (h : EncodedAs messages encoded) : ∀ m ∈ messages, m.size ≤ maxSize := by
  induction h with
  | nil => exact fun _ hm => absurd hm List.not_mem_nil
  | cons hm _ ih => exact List.forall_mem_cons.2 ⟨((encode_eq_ok_iff _ _).1 hm).1, ih⟩

theorem flatten_eq (h : EncodedAs messages encoded) : encoded.flatten = messages.flatMap bytes := by
  induction h with
  | nil => rfl
  | cons hm _ ih =>
      rw [List.flatten_cons, List.flatMap_cons, ih, ((encode_eq_ok_iff _ _).1 hm).2]

theorem take (h : EncodedAs messages encoded) (n : Nat) :
    EncodedAs (messages.take n) (encoded.take n) :=
  List.forall₂_take n h

/-- The messages are found in front of any stream. -/
theorem splitAll_append (h : EncodedAs messages encoded) (rest : List UInt8) :
    splitAll (encoded.flatten ++ rest) =
      { splitAll rest with messages := messages ++ (splitAll rest).messages } := by
  rw [h.flatten_eq, splitAll_flatMap_bytes_append messages rest h.size_le]

theorem splitAtMost_append (h : EncodedAs messages encoded) (rest : List UInt8) :
    splitAtMost messages.length (encoded.flatten ++ rest) = ⟨messages, rest, none⟩ := by
  rw [h.flatten_eq, splitAtMost_flatMap_bytes_append messages rest h.size_le]

theorem splitAll_eq (h : EncodedAs messages encoded) :
    splitAll encoded.flatten = ⟨messages, [], none⟩ := by
  have hall := h.splitAll_append []
  rw [List.append_nil, splitAll_nil, List.append_nil] at hall
  exact hall

/-- A new queue, however it is drained, hands out the messages that were sent first. -/
theorem splitAll_handedOut {steps : List QueueStep}
    (h : EncodedAs messages (QueueStep.sent steps)) :
    let handed := Queue.empty.handedOut steps
    splitAll handed.flatten = ⟨messages.take handed.length, [], none⟩ := by
  intro handed
  have htake := h.take handed.length
  rw [← Queue.handedOut_empty] at htake
  exact htake.splitAll_eq

end EncodedAs

end Wire.Message

/-! ### The socket -/

namespace Program

variable {χ : Type}

/-- A message that is handed to an open socket is delivered. -/
theorem transmit_of_open (message : List UInt8) {site : Site χ} {socket : Socket}
    (hsocket : site.socket = some socket) (hopen : socket.peerOpen = true) :
    transmit message site =
      (.ok (), { site with
        socket := some { socket with delivered := socket.delivered ++ message } }) := by
  simp only [transmit, HostChannel.send, hsocket, hopen, if_true]

theorem forM_transmit_of_open (messages : List (List UInt8)) (site : Site χ) (socket : Socket)
    (hsocket : site.socket = some socket) (hopen : socket.peerOpen = true) :
    (messages.forM transmit : Action (Site χ) Failure Unit) site =
      (.ok (), { site with
        socket := some { socket with delivered := socket.delivered ++ messages.flatten } }) := by
  induction messages generalizing site socket with
  | nil =>
      rw [List.flatten_nil, List.append_nil, ← hsocket]
      rfl
  | cons message messages ih =>
      change (transmit message >>= fun _ => messages.forM transmit : Action (Site χ) Failure Unit)
        site = _
      rw [Action.bind_of_ok (transmit_of_open message hsocket hopen),
        ih _ { socket with delivered := socket.delivered ++ message } rfl hopen,
        List.flatten_cons, List.append_assoc]

/-- What waits in the queue is delivered in one piece, and the queue is empty. -/
theorem handOver_of_open {p : Program} {site : Site χ} {socket : Socket}
    (hhosted : p.hosted = true) (hsocket : site.socket = some socket)
    (hopen : socket.peerOpen = true) :
    (p.handOver : Action (Site χ) Failure Program) site =
      (.ok { p with queue := .empty }, { site with
        socket := some { socket with
          delivered := socket.delivered ++ p.queue.waiting.flatten } }) := by
  simp only [handOver, Queue.drain, hhosted, if_true]
  rw [Action.bind_of_ok (forM_transmit_of_open p.queue.waiting site socket hsocket hopen)]
  rfl

/-- Sends messages to the queue and hands it over whenever it is drained. -/
def deliver (p : Program) : List QueueStep → Action (Site χ) Failure Program
  | [] => pure p
  | .send message :: steps =>
      { p with queue := (HostChannel.send message p.queue).2 }.deliver steps
  | .drain :: steps => do (← p.handOver).deliver steps

/-- An open socket gets what the queue hands out. -/
theorem deliver_of_open (steps : List QueueStep) (p : Program) (site : Site χ) (socket : Socket)
    (hhosted : p.hosted = true) (hsocket : site.socket = some socket)
    (hopen : socket.peerOpen = true) :
    p.deliver steps site =
      (.ok { p with queue := p.queue.performAll steps }, { site with
        socket := some { socket with
          delivered := socket.delivered ++ (p.queue.handedOut steps).flatten } }) := by
  induction steps generalizing p site socket with
  | nil =>
      rw [Queue.handedOut, List.flatten_nil, List.append_nil, ← hsocket]
      rfl
  | cons step steps ih =>
      cases step with
      | send message => exact ih _ site socket hhosted hsocket hopen
      | drain =>
          rw [deliver, Action.bind_of_ok (handOver_of_open hhosted hsocket hopen),
            ih { p with queue := .empty } _
              { socket with delivered := socket.delivered ++ p.queue.waiting.flatten }
              hhosted rfl hopen]
          simp only [Queue.handedOut, Queue.perform, Queue.drain, Queue.performAll,
            List.foldl_cons, List.flatten_append, List.append_assoc]

end Program

namespace Wire.Message

/-- The byte stream to the host is self-framing.

Encoded messages in front of any bytes are split off in order, and then the splitting faces
exactly these bytes.  So whatever a queue that sends such messages has handed out at any time,
and an open socket has got, splits into the messages sent first, and into all of them once the
queue is drained; and the requests can be told from them.

Of any bytes at all the splitting comes to an end, where nothing is left or no message follows.
Every message takes as many bytes as its header declares, and header words, bodies and what is
left make up the input. -/
theorem stream_selfFraming :
    (∀ messages encoded trailing, EncodedAs messages encoded →
      splitAtMost messages.length (encoded.flatten ++ trailing) = ⟨messages, trailing, none⟩ ∧
      splitAll (encoded.flatten ++ trailing) =
        { splitAll trailing with messages := messages ++ (splitAll trailing).messages }) ∧
    (∀ messages steps, EncodedAs messages (QueueStep.sent steps) →
      let handed := Queue.empty.handedOut steps
      handed ++ (Queue.empty.performAll steps).waiting = QueueStep.sent steps ∧
      splitAll handed.flatten = ⟨messages.take handed.length, [], none⟩ ∧
      splitAll (Queue.empty.handedOut (steps ++ [.drain])).flatten = ⟨messages, [], none⟩ ∧
      (∀ requests : List ShellRequest, messages = requests.map ShellRequest.message →
        messages.map ShellRequest.ofMessage? = requests.map some) ∧
      ∀ {χ : Type} (p : Program) (site : Site χ) (socket : Socket), p.hosted = true →
        p.queue = .empty → site.socket = some socket → socket.peerOpen = true →
        (p.deliver steps site).2.socket =
          some { socket with delivered := socket.delivered ++ handed.flatten }) ∧
    (∀ buffer,
      let stream := splitAll buffer
      (stream.rest = [] ∧ stream.error = none ∨
        stream.rest ≠ [] ∧ ∃ e, stream.error = some e ∧ split stream.rest = .error e) ∧
      (∀ m ∈ stream.messages, 8 ≤ m.size ∧ m.size ≤ 65535) ∧
      stream.messages.flatMap bytes ++ stream.rest = buffer) ∧
    (∀ buffer m rest, split buffer = .ok (m, rest) →
      declaredSize? buffer = some m.size ∧ 8 ≤ m.size ∧ m.size ≤ 65535 ∧
      buffer.length = m.size + rest.length ∧
      buffer = wordBytes m.objectId ++ wordBytes m.sizeWord ++ m.body ++ rest) := by
  refine ⟨?_, ?_, ?_, ?_⟩
  · intro messages encoded trailing hencoded
    exact ⟨hencoded.splitAtMost_append trailing, hencoded.splitAll_append trailing⟩
  · intro messages steps hencoded handed
    refine ⟨Queue.handedOut_append_waiting .empty steps, hencoded.splitAll_handedOut, ?_, ?_, ?_⟩
    · rw [Queue.handedOut_empty_drain]
      exact hencoded.splitAll_eq
    · rintro requests rfl
      have hsize := hencoded.size_le
      rw [List.forall_mem_map] at hsize
      rw [List.map_map]
      exact List.map_congr_left fun r hr => ShellRequest.ofMessage?_message r (hsize r hr)
    · intro χ p site socket hhosted hqueue hsocket hopen
      rw [Program.deliver_of_open steps p site socket hhosted hsocket hopen, hqueue]
  · intro buffer stream
    refine ⟨splitAll_ends buffer, ?_, flatMap_bytes_splitAll buffer⟩
    intro m hm
    exact ⟨m.headerSize_le_size, size_le_of_mem_splitAll buffer m hm⟩
  · intro buffer m rest hsplit
    obtain ⟨hsize, rfl⟩ := eq_bytes_append_of_split hsplit
    refine ⟨declaredSize?_bytes_append m rest hsize, m.headerSize_le_size, hsize, ?_, rfl⟩
    rw [List.length_append, length_bytes]

/-- A title, a change of state and an application id.  The first is handed out before the others
are sent, and three bytes follow that are no message. -/
theorem stream_selfFraming_drainedTwice :
    let requests : List ShellRequest :=
      [.setTitle 30 "é", .setFullscreen 30, .setApplicationId 9 ""]
    let messages := requests.map ShellRequest.message
    let steps : List QueueStep :=
      [.send (ShellRequest.setTitle 30 "é").message.bytes, .drain,
       .send (ShellRequest.setFullscreen 30).message.bytes,
       .send (ShellRequest.setApplicationId 9 "").message.bytes]
    let program : Program := ⟨.new (.plain true), .empty, true⟩
    let site : Site Unit := ⟨(), .empty, some .fresh⟩
    let title := (ShellRequest.setTitle 30 "é").message
    EncodedAs messages (QueueStep.sent steps) ∧
    splitAtMost 3 ((QueueStep.sent steps).flatten ++ [1, 2, 3]) = ⟨messages, [1, 2, 3], none⟩ ∧
    splitAll (Queue.empty.handedOut steps).flatten = ⟨[title], [], none⟩ ∧
    splitAll (Queue.empty.handedOut (steps ++ [.drain])).flatten = ⟨messages, [], none⟩ ∧
    messages.map ShellRequest.ofMessage? = requests.map some ∧
    (program.deliver steps site).2.socket = some ⟨true, title.bytes⟩ ∧
    split (title.bytes ++ [1, 2, 3]) = .ok (title, [1, 2, 3]) ∧
    declaredSize? (title.bytes ++ [1, 2, 3]) = some 16 := by
  intro requests messages steps program site title
  have hencoded : EncodedAs messages (QueueStep.sent steps) := by
    refine .cons ?_ (.cons ?_ (.cons ?_ .nil)) <;>
      exact (encode_eq_ok_iff _ _).2 ⟨by decide, rfl⟩
  have hsplit : split (title.bytes ++ [1, 2, 3]) = .ok (title, [1, 2, 3]) := by decide
  obtain ⟨hfront, hqueue, -, hfirst⟩ := stream_selfFraming
  obtain ⟨-, hhanded, hdrained, hrequests, hsocket⟩ := hqueue messages steps hencoded
  exact ⟨hencoded, (hfront messages _ [1, 2, 3] hencoded).1, hhanded, hdrained,
    hrequests requests rfl, hsocket program site .fresh rfl rfl rfl rfl, hsplit,
    (hfirst _ title [1, 2, 3] hsplit).1⟩

end Wire.Message

end GuestShell
