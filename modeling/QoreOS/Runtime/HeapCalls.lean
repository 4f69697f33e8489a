import QoreOS.Runtime.System

/-! The allocator calls of each part of the kernel, and that apart from them
the running kernel does what the kernel without a heap does. -/

namespace QoreOS.Runtime

open QoreOS.Library QoreOS.Network

namespace System

variable {α β : Type} {callers : Caller → Prop} {system : System} {kernel : Kernel}
  {calls rest : List HeapCall} {result : Option (α × Kernel)} {final : Option (β × Kernel)}

/-- A piece of code makes these calls. If they are served it gives the result,
in which nothing stands for a panic, and changes nothing else; a refused call
of one of the callers ends it. -/
structure Spends (callers : Caller → Prop) (program : Program System α) (system : System)
    (calls : List HeapCall) (result : Option (α × Kernel)) : Prop where
  served : ∀ used, run (HeapCall.serve heapSize) calls system.used = some used →
    match result with
    | some (value, kernel) =>
      program.exec system = (some value, { system with used := used, kernel := kernel })
    | none => ∃ after, program.exec system = (none, after) ∧ after.refused = system.refused ∧
      after.commands = system.commands
  refused : run (HeapCall.serve heapSize) calls system.used = none →
    ∃ after caller, program.exec system = (none, after) ∧ callers caller ∧
      after.refused = system.refused ++ [caller] ∧ after.commands = system.commands

theorem spends_pure (value : α) :
    Spends callers (pure value) system [] (some (value, system.kernel)) := by
  constructor
  · intro used same
    cases same
    rfl
  · intro refused
    cases refused

/-- The rest of the code meets the kernel which the first part leaves. -/
theorem spends_bind {program : Program System α} {next : α → Program System β} {value : α}
    (first : Spends callers program system calls (some (value, kernel)))
    (second : ∀ used, Spends callers (next value) { system with used := used, kernel := kernel } rest
      final) :
    Spends callers (program >>= next) system (calls ++ rest) final := by
  have split : run (HeapCall.serve heapSize) (calls ++ rest) system.used =
      (run (HeapCall.serve heapSize) calls system.used).bind (run (HeapCall.serve heapSize) rest) :=
    run_append ..
  cases middle : run (HeapCall.serve heapSize) calls system.used with
  | none =>
    rw [middle, Option.bind_none] at split
    obtain ⟨after, caller, stopped, blamed⟩ := first.refused middle
    constructor
    · intro used served
      rw [split] at served
      cases served
    · intro _
      exact ⟨after, caller, by rw [Program.exec_bind, stopped], blamed⟩
  | some between =>
    rw [middle, Option.bind_some] at split
    have ended := first.served between middle
    have continued := second between
    constructor
    · intro used served
      rw [Program.exec_bind, ended]
      exact continued.served used (split ▸ served)
    · intro refused
      rw [Program.exec_bind, ended]
      exact continued.refused (split ▸ refused)

theorem spends_panic {program : Program System α} {next : α → Program System β}
    (first : Spends callers program system calls none) :
    Spends callers (program >>= next) system calls none := by
  constructor
  · intro used served
    obtain ⟨after, stopped, kept⟩ := first.served used served
    exact ⟨after, by rw [Program.exec_bind, stopped], kept⟩
  · intro refused
    obtain ⟨after, caller, stopped, blamed⟩ := first.refused refused
    exact ⟨after, caller, by rw [Program.exec_bind, stopped], blamed⟩

theorem spends_look {next : System → Program System β} (spends : Spends callers (next system) system
    calls final) : Spends callers (look >>= next) system calls final := by
  have same : (look >>= next).exec system = (next system).exec system := Program.exec_bind ..
  exact ⟨fun used served => by rw [same]; exact spends.served used served,
    fun refused => by rw [same]; exact spends.refused refused⟩

theorem spends_orPanic {next : α → Program System β} {value : α} (found : Option α)
    (there : found = some value) (spends : Spends callers (next value) system calls final) :
    Spends callers (Program.orPanic found >>= next) system calls final := by
  have same : (Program.orPanic found >>= next).exec system = (next value).exec system := by
    rw [Program.exec_bind, Program.exec_orPanic, there]
  exact ⟨fun used served => by rw [same]; exact spends.served used served,
    fun refused => by rw [same]; exact spends.refused refused⟩

theorem spends_missing {next : α → Program System β} (found : Option α) (missing : found = none) :
    Spends callers (Program.orPanic found >>= next) system [] none := by
  subst missing
  constructor
  · intro used served
    exact ⟨system, rfl, rfl, rfl⟩
  · intro refused
    cases refused

theorem exec_onKernel (step : Kernel → Option Kernel) (stepped : step system.kernel = some kernel) :
    (onKernel step).exec system = (some (), { system with kernel := kernel }) := by
  rw [onKernel, Program.exec_bind, Program.exec_act, stepped]
  rfl

theorem spends_onKernel (step : Kernel → Option Kernel) (stepped : step system.kernel = some kernel) :
    Spends callers (onKernel step) system [] (some ((), kernel)) := by
  constructor
  · intro used same
    cases same
    exact exec_onKernel step stepped
  · intro refused
    cases refused

/-- After a step of the kernel that takes no memory. -/
theorem spends_after {next : Unit → Program System β} (step : Kernel → Option Kernel)
    (stepped : step system.kernel = some kernel)
    (spends : Spends callers (next ()) { system with kernel := kernel } calls final) :
    Spends callers (onKernel step >>= next) system calls final := by
  have same : (onKernel step >>= next).exec system =
      (next ()).exec { system with kernel := kernel } := by
    rw [Program.exec_bind, exec_onKernel step stepped]
  exact ⟨fun used served => by rw [same]; exact spends.served used served,
    fun refused => by rw [same]; exact spends.refused refused⟩

theorem spends_change {next : Unit → Program System β} {change : Kernel → Kernel}
    (spends : Spends callers (next ()) { system with kernel := change system.kernel } calls final) :
    Spends callers (onKernel (fun kernel => some (change kernel)) >>= next) system calls final :=
  spends_after _ rfl spends

theorem spends_print {next : Unit → Program System β} {text : String} {color : UInt32}
    (spends : Spends callers (next ()) { system with kernel := system.kernel.terminalPrint text color }
      calls final) : Spends callers (terminalPrint text color >>= next) system calls final :=
  spends_after _ rfl spends

theorem spends_heap {caller : Caller} (blamed : callers caller) (calls : List HeapCall) :
    Spends callers (heap caller calls) system calls (some ((), system.kernel)) := by
  induction calls generalizing system with
  | nil => exact spends_pure ()
  | cons request calls ih =>
    have unfolded : heap caller (request :: calls) = call caller request >>= fun _ => heap caller calls :=
      rfl
    rw [unfolded]
    have first : Spends callers (call caller request) system [request]
        (some ((), system.kernel)) := by
      have answer : (call caller request).exec system =
          (request.serve heapSize system.used).elim
            (none, { system with refused := system.refused ++ [caller] })
            fun used => (some (), { system with used := used }) := by
        rw [call, Program.exec_bind, Program.exec_act]
        cases request.serve heapSize system.used <;> rfl
      constructor
      · intro used served
        rw [run_cons, Option.bind_eq_some_iff] at served
        obtain ⟨middle, served, same⟩ := served
        cases same
        change (call caller request).exec system = _
        rw [answer, served]
        rfl
      · intro refused
        rw [run_cons, Option.bind_eq_none_iff] at refused
        cases served : request.serve heapSize system.used with
        | none =>
          rw [served] at answer
          exact ⟨_, caller, answer, blamed, rfl, rfl⟩
        | some used =>
          have impossible := refused used served
          cases impossible
    exact spends_bind first fun used => ih

theorem spends_answer {program : Program System Unit} {result : Option Kernel}
    (spends : Spends callers program system calls (result.map (Prod.mk ()))) (value : α) :
    Spends callers (program >>= fun _ => pure value) system calls (result.map (Prod.mk value)) := by
  cases result with
  | none => exact spends_panic spends
  | some kernel =>
    rw [← List.append_nil calls]
    exact spends_bind spends fun used => spends_pure value

/-- Memory is taken for what the kernel then does. -/
theorem spends_taken {caller : Caller} (blamed : callers caller) (calls : List HeapCall)
    {step : Kernel → Option Kernel} (stepped : step system.kernel = some kernel) :
    Spends callers (heap caller calls >>= fun _ => onKernel step) system calls
      (some ((), kernel)) := by
  have spends : Spends callers (heap caller calls >>= fun _ => onKernel step) system (calls ++ [])
      (some ((), kernel)) :=
    spends_bind (spends_heap blamed calls) fun used => spends_onKernel step stepped
  rwa [List.append_nil] at spends

/-- The callers whose requests are to be served. -/
def watched (caller : Caller) : Prop := caller ≠ .syscallHandler

instance (caller : Caller) : Decidable (watched caller) := inferInstanceAs (Decidable (_ ≠ _))

variable {nic : E1000}

theorem injectFrame_spends (system : System) (card : system.kernel.netCard = some nic) {frame : List UInt8}
    (sent : system.kernel.injectFrame frame = some kernel) :
    Spends watched (injectFrame frame) system [.take frame.length] (some ((), kernel)) := by
  apply spends_look
  rw [card, Option.isSome_some, if_pos rfl]
  exact spends_taken (by decide) [.take frame.length] sent

def synAckCalls : List HeapCall :=
  (Buffer.vec (34 + 24)).calls ++ ([.take (34 + 24)] ++ (Buffer.vec (34 + 24)).drop)

theorem sendTcpSynAck_spends (system : System) (ready : system.kernel.Ready nic) (targetMac : Mac) (targetIp : Ip)
    (targetPort : UInt16) (clientSeq : UInt32) : ∃ after,
    system.kernel.sendTcpSynAck targetMac targetIp targetPort clientSeq = some after ∧
    Spends watched (sendTcpSynAck targetMac targetIp targetPort clientSeq) system synAckCalls
      (some ((), after)) := by
  obtain ⟨ipChecksum, tcpChecksum, built⟩ := synAckFrame_encode targetMac targetIp targetPort
    clientSeq
  generalize frame_eq : (baseSegment targetMac targetIp targetPort 0xCAFEBABE (clientSeq + 1) 0x12
    ipChecksum tcpChecksum segmentSizeOption [] _ _).encode = frame at built
  have length : frame.length = 34 + 24 := by
    rw [← frame_eq, baseSegment_length]
    rfl
  obtain ⟨after, next, sent, -⟩ := Kernel.injectFrame_safely ready frame
  refine ⟨_, by rw [Kernel.sendTcpSynAck_frame, built, Option.bind_some, sent, Option.bind_some], ?_⟩
  apply spends_bind (spends_heap (by decide) (Buffer.vec (34 + 24)).calls)
  intro used
  apply spends_orPanic _ built
  rw [← length]
  refine spends_bind (injectFrame_spends { system with used := used } ready.card sent) fun used => ?_
  apply spends_print
  exact spends_heap (by decide) _

variable (growth : Growth)

def httpCalls (httpPayload : Option String) : List HeapCall :=
  let text := httpText growth httpPayload
  let length := (utf8 (Kernel.httpBody httpPayload)).length
  let memory := (Buffer.vec (34 + 20)).extend growth length
  text.calls ++ (memory.calls ++ ([.take (34 + 20 + length)] ++ (memory.drop ++ text.drop)))

theorem sendHttpResponse_spends (system : System) (ready : system.kernel.Ready nic) (targetMac : Mac) (targetIp : Ip)
    (targetPort : UInt16) (mySeq clientSeq clientDataLen : UInt32) : ∃ after,
    system.kernel.sendHttpResponse targetMac targetIp targetPort mySeq clientSeq clientDataLen =
      some after ∧
    Spends watched (sendHttpResponse growth targetMac targetIp targetPort mySeq clientSeq
      clientDataLen) system (httpCalls growth system.kernel.httpPayload) (some ((), after)) := by
  have short := Kernel.httpBody_length ready.payload
  obtain ⟨ipChecksum, tcpChecksum, built⟩ := httpFrame_encode targetMac targetIp targetPort mySeq
    (clientSeq + clientDataLen) (utf8 (Kernel.httpBody system.kernel.httpPayload)) (by omega)
  generalize frame_eq : (baseSegment targetMac targetIp targetPort mySeq (clientSeq + clientDataLen)
    0x18 ipChecksum tcpChecksum [] (utf8 (Kernel.httpBody system.kernel.httpPayload)) _ _).encode =
    frame at built
  have length : frame.length =
      34 + 20 + (utf8 (Kernel.httpBody system.kernel.httpPayload)).length := by
    rw [← frame_eq, baseSegment_length]
    rfl
  obtain ⟨after, next, sent, -⟩ := Kernel.injectFrame_safely ready frame
  refine ⟨_, by rw [Kernel.sendHttpResponse_frame, built, Option.bind_some, sent, Option.bind_some],
    ?_⟩
  apply spends_look
  apply spends_bind (spends_heap (by decide) (httpText growth system.kernel.httpPayload).calls)
  intro used
  apply spends_bind (spends_heap (by decide) _)
  intro used
  apply spends_orPanic _ built
  rw [← length]
  refine spends_bind (injectFrame_spends { system with used := used } ready.card sent) fun used => ?_
  apply spends_print
  exact spends_heap (by decide) _

/-- The calls for the answer to a request. -/
def answerCalls (httpPayload : Option String) : Option Request → List HeapCall
  | none => []
  | some (.syn peer _) => (synText growth peer).calls ++ ((synText growth peer).drop ++ synAckCalls)
  | some (.get ..) => httpCalls growth httpPayload

theorem answer_spends (ready : system.kernel.Ready nic) (request : Option Request) : ∃ after,
    system.kernel.answer request = some after ∧
    Spends watched (answer growth request) system (answerCalls growth system.kernel.httpPayload request)
      (some ((), after)) := by
  cases request with
  | none => exact ⟨system.kernel, rfl, spends_pure ()⟩
  | some request =>
    cases request with
    | syn peer sequence =>
      have text : system.kernel.Ready nic → ∀ used, _ := fun ready used =>
        sendTcpSynAck_spends { system with
          used := used
          kernel := system.kernel.terminalPrint
            s!"> NET: TCP [SYN] RCV'D. PORT {peer.port} -> {(80 : UInt16)}\n" 0xF59E0B }
          (ready.print _ _) (system.kernel.targetMac peer.ip) peer.ip peer.port sequence
      obtain ⟨after, sent, -⟩ := text ready system.used
      refine ⟨after, sent, ?_⟩
      apply spends_look
      apply spends_bind (spends_heap (by decide) (synText growth peer).calls)
      intro used
      apply spends_print
      apply spends_bind (spends_heap (by decide) (synText growth peer).drop)
      intro used
      obtain ⟨same, again, spends⟩ := text ready used
      cases sent.symm.trans again
      exact spends
    | get peer sequence acknowledgment length =>
      obtain ⟨after, sent, spends⟩ := sendHttpResponse_spends growth { system with
          kernel := system.kernel.terminalPrint "> NET: HTTP [GET] REQUEST INTERCEPTED!\n" 0x10B981 }
        (ready.print _ _) (system.kernel.targetMac peer.ip) peer.ip peer.port acknowledgment
        sequence (UInt32.ofNat length)
      refine ⟨after, sent, ?_⟩
      apply spends_look
      exact spends_print spends

/-- Two chains that read the same values before they part. -/
private theorem bind_same {γ : Type} {value : Option α} {next : α → Option β} {read : α → Option γ}
    {decide : γ → Option β} (same : ∀ found, next found = (read found).bind decide) :
    (value >>= next) = (value >>= read).bind decide := by
  cases value with
  | none => rfl
  | some found => exact same found

/-- What the ARP branch of the kernel without a heap does by the fields it reads. -/
def arpAnswered (kernel : Kernel) : Option ArpPacket → Option Kernel
  | none => some kernel
  | some arp =>
    let learnt := { kernel with arpTable := kernel.arpTable.insert arp.senderIp arp.senderMac }
    let told := learnt.terminalPrint (Kernel.arpMessage arp.targetIp) 0xF59E0B
    if arp.opcode = 1 then
      if arp.targetIp = .of 10 0 2 15 then
        (told.terminalPrint "> NET: THAT IS US! TRANSMITTING ARP REPLY...\n" 0x10B981).arpReply
          arp.senderMac arp.senderIp
      else some told
    else some learnt

theorem handleArp_answered (kernel : Kernel) (packetSlice : List UInt8) :
    kernel.handleArp packetSlice = (readArp packetSlice).bind (arpAnswered kernel) := by
  unfold Kernel.handleArp readArp
  refine bind_same fun b14 => bind_same fun b15 => bind_same fun b16 => bind_same fun b17 =>
    bind_same fun b20 => bind_same fun b21 => ?_
  dsimp only
  by_cases ethernet : be16 b14 b15 = 1 ∧ be16 b16 b17 = 0x0800
  · rw [if_pos ethernet, if_pos ethernet]
    refine bind_same fun b22 => bind_same fun b23 => bind_same fun b24 => bind_same fun b25 =>
      bind_same fun b26 => bind_same fun b27 => bind_same fun b28 => bind_same fun b29 =>
      bind_same fun b30 => bind_same fun b31 => bind_same fun b38 => bind_same fun b39 =>
      bind_same fun b40 => bind_same fun b41 => ?_
    rfl
  · rw [if_neg ethernet, if_neg ethernet]
    rfl

def replyCalls (arp : ArpPacket) : List HeapCall :=
  if arp.targetIp = .of 10 0 2 15 then (arpFrame growth 42).calls else []

/-- The calls for the answer to an ARP packet. -/
def arpCalls : Option ArpPacket → List HeapCall
  | none => []
  | some arp =>
    if arp.opcode = 1 then
      (arpText growth arp.targetIp).calls ++ (replyCalls growth arp ++ (arpText growth arp.targetIp).drop)
    else []

theorem arpAnswered_safely {kernel : Kernel} (ready : kernel.Ready nic) (packet : Option ArpPacket) :
    kernel.Safely nic (arpAnswered kernel packet) := by
  cases packet with
  | none => exact Kernel.Safely.stay ready
  | some arp =>
    have learnt := ready.learn (kernel.arpTable.insert arp.senderIp arp.senderMac)
    have told := learnt.print (Kernel.arpMessage arp.targetIp) 0xF59E0B
    simp only [arpAnswered]
    split
    · split
      · exact (Kernel.arpReply_safely (told.print _ _) ..).after_print.after_print.after_learn
      · exact (Kernel.Safely.stay told).after_print.after_learn
    · exact (Kernel.Safely.stay learnt).after_learn

theorem replyArp_spends (system : System) (ready : system.kernel.Ready nic) (arp : ArpPacket) :
    ∃ after, (if arp.targetIp = #v[10, 0, 2, 15] then
        (system.kernel.terminalPrint "> NET: THAT IS US! TRANSMITTING ARP REPLY...\n"
          0x10B981).arpReply arp.senderMac arp.senderIp
      else some system.kernel) = some after ∧
    Spends watched (replyArp growth nic arp) system (replyCalls growth arp) (some ((), after)) := by
  unfold replyArp replyCalls
  by_cases us : arp.targetIp = #v[10, 0, 2, 15]
  · simp only [if_pos us]
    obtain ⟨after, next, sent, -⟩ := Kernel.arpReply_safely (ready.print
      "> NET: THAT IS US! TRANSMITTING ARP REPLY...\n" 0x10B981) arp.senderMac arp.senderIp
    refine ⟨after, sent, ?_⟩
    apply spends_print
    rw [Kernel.arpReplyBytes_length]
    exact spends_taken (by decide) _ sent
  · simp only [if_neg us]
    exact ⟨system.kernel, rfl, spends_pure ()⟩

theorem answerArp_spends (system : System) (ready : system.kernel.Ready nic)
    (packet : Option ArpPacket) : ∃ after, arpAnswered system.kernel packet = some after ∧
    Spends watched (answerArp growth nic packet) system (arpCalls growth packet)
      (some ((), after)) := by
  cases packet with
  | none => exact ⟨system.kernel, rfl, spends_pure ()⟩
  | some arp =>
    have replied := fun used => replyArp_spends growth { system with
      used := used
      kernel := { system.kernel with
        arpTable := system.kernel.arpTable.insert arp.senderIp arp.senderMac }.terminalPrint
          (Kernel.arpMessage arp.targetIp) 0xF59E0B } ((ready.learn _).print _ _) arp
    unfold arpAnswered answerArp arpCalls
    by_cases asking : arp.opcode = 1
    · simp only [if_pos asking]
      obtain ⟨after, answered, -⟩ := replied system.used
      refine ⟨after, answered, ?_⟩
      apply spends_change
      apply spends_bind (spends_heap (by decide) (arpText growth arp.targetIp).calls)
      intro used
      apply spends_print
      obtain ⟨same, again, spends⟩ := replied used
      cases answered.symm.trans again
      apply spends_bind spends
      intro used
      exact spends_heap (by decide) _
    · simp only [if_neg asking]
      refine ⟨_, rfl, ?_⟩
      apply spends_change
      exact spends_pure ()

/-- A packet that is too short stops the kernel before it asks for memory. -/
theorem handleArp_spends (system : System) (ready : system.kernel.Ready nic)
    (packetSlice : List UInt8) :
    Spends watched (handleArp growth nic packetSlice) system
      (((readArp packetSlice).map (arpCalls growth)).getD [])
      ((system.kernel.handleArp packetSlice).map (Prod.mk ())) := by
  rw [handleArp_answered]
  cases reading : readArp packetSlice with
  | none => exact spends_missing _ reading
  | some packet =>
    obtain ⟨after, answered, spends⟩ := answerArp_spends growth system ready packet
    rw [Option.bind_some, answered]
    exact spends_orPanic _ reading spends

theorem sendRequest_spends (system : System) (ready : system.kernel.Ready nic) : ∃ after next,
    after.Ready next ∧
    Spends watched (sendRequest growth) system (arpFrame growth 42).calls (some ((), after)) := by
  obtain ⟨after, next, sent, transmits⟩ := Kernel.arpRequest_safely ready #v[10, 0, 2, 2]
  refine ⟨_, next, transmits.ready.print "> SYS: E1000 HARDWARE TRANSMIT (TX) COMPLETE!\n" 0x10B981,
    ?_⟩
  apply spends_look
  rw [ready.card]
  have request : Spends watched (arpRequest growth nic #v[10, 0, 2, 2]) system
      (arpFrame growth 42).calls (some ((), after)) := by
    unfold arpRequest
    rw [Kernel.arpRequestBytes_length]
    exact spends_taken (by decide) _ sent
  rw [← List.append_nil (arpFrame growth 42).calls]
  exact spends_bind request fun used => spends_onKernel _ rfl

/-- The calls between the trace of a packet and the end of `poll`. -/
def handlingCalls (httpPayload : Option String) (packetSlice : List UInt8) (ethertype : UInt16) :
    List HeapCall :=
  if ethertype = 0x0806 then ((readArp packetSlice).map (arpCalls growth)).getD []
  else if ethertype = 0x0800 then answerCalls growth httpPayload (readRequest packetSlice)
  else []

/-- A packet that is too short ends the kernel on the way. -/
def tooShort (packetSlice : List UInt8) (ethertype : UInt16) : Bool :=
  ethertype = 0x0806 && (readArp packetSlice).isNone

def packetCalls (httpPayload : Option String) (packetSlice : List UInt8) : List HeapCall :=
  match ethertype packetSlice with
  | none => []
  | some ethertype =>
    (tapText growth packetSlice ethertype).calls ++
      (handlingCalls growth httpPayload packetSlice ethertype ++
        if tooShort packetSlice ethertype then [] else (tapText growth packetSlice ethertype).drop)

def pollCalls (kernel : Kernel) : List HeapCall :=
  match kernel.netCard.bind kernel.packetSlice with
  | some (some packetSlice) => packetCalls growth kernel.httpPayload packetSlice
  | _ => []

/-- What `poll` does after its trace of the packet. -/
def handled (kernel : Kernel) (packetSlice : List UInt8) (ethertype : UInt16) : Option Kernel :=
  if ethertype = 0x0806 then kernel.handleArp packetSlice
  else if ethertype = 0x0800 then kernel.handleIncomingPacket packetSlice
  else some kernel

theorem dispatch_handled (kernel : Kernel) (packetSlice : List UInt8) :
    kernel.dispatch packetSlice = (ethertype packetSlice).bind fun ethertype =>
      handled (kernel.terminalPrint (tapMessage packetSlice ethertype) 0x8B5CF6) packetSlice
        ethertype := by
  unfold Kernel.dispatch ethertype
  exact bind_same fun high => bind_same fun low => rfl

theorem handled_spends (system : System) (ready : system.kernel.Ready nic)
    (packetSlice : List UInt8) (ethertype : UInt16) :
    Spends watched (handle growth nic packetSlice ethertype) system
      (handlingCalls growth system.kernel.httpPayload packetSlice ethertype)
      ((handled system.kernel packetSlice ethertype).map (Prod.mk ())) := by
  unfold handle handlingCalls handled
  by_cases arp : ethertype = 0x0806
  · simp only [if_pos arp]
    exact handleArp_spends growth system ready packetSlice
  · simp only [if_neg arp]
    by_cases ip : ethertype = 0x0800
    · simp only [if_pos ip]
      obtain ⟨after, answered, spends⟩ := answer_spends growth ready (readRequest packetSlice)
      rw [handleIncomingPacket_answer, answered]
      exact spends
    · simp only [if_neg ip]
      exact spends_pure ()

theorem handled_tooShort (kernel : Kernel) {packetSlice : List UInt8} {ethertype : UInt16}
    (short : tooShort packetSlice ethertype = true) : handled kernel packetSlice ethertype = none := by
  rw [tooShort, Bool.and_eq_true, decide_eq_true_eq, Option.isNone_iff_eq_none] at short
  rw [handled, if_pos short.1, handleArp_answered, short.2, Option.bind_none]

theorem handled_safely {kernel : Kernel} (ready : kernel.Ready nic) {packetSlice : List UInt8}
    {ethertype : UInt16} (long : tooShort packetSlice ethertype = false) :
    kernel.Safely nic (handled kernel packetSlice ethertype) := by
  unfold handled
  by_cases arp : ethertype = 0x0806
  · rw [if_pos arp, handleArp_answered]
    obtain ⟨packet, reading⟩ : ∃ packet, readArp packetSlice = some packet := by
      simpa [tooShort, arp, Option.isNone_eq_false_iff, Option.isSome_iff_exists] using long
    rw [reading, Option.bind_some]
    exact arpAnswered_safely ready packet
  · rw [if_neg arp]
    split
    · exact Kernel.handleIncomingPacket_safely ready packetSlice
    · exact Kernel.Safely.stay ready

theorem release_served {before after : Kernel} {next : E1000}
    (transmits : before.Transmits nic after next) {bucket : Nat} (inside : bucket < nic.rxRing.length) :
    ∃ final, release bucket after = some final := by
  rw [← transmits.rxRing] at inside
  simp only [release, transmits.ready.card, E1000.release, List.getElem?_eq_getElem inside,
    Option.bind_eq_bind, Option.bind_some, Option.some.injEq, exists_eq']

theorem packetSlice_inside {kernel : Kernel} {packet : Option (List UInt8)}
    (reading : kernel.packetSlice nic = some packet) : nic.currentRxBucket < nic.rxRing.length := by
  by_contra outside
  simp [Kernel.packetSlice, List.getElem?_eq_none (Nat.le_of_not_lt outside)] at reading

theorem handlePacket_spends (system : System) (ready : system.kernel.Ready nic)
    (inside : nic.currentRxBucket < nic.rxRing.length) (packetSlice : List UInt8) :
    Spends watched (handlePacket growth nic packetSlice) system
      (packetCalls growth system.kernel.httpPayload packetSlice)
      (((system.kernel.dispatch packetSlice).bind (release nic.currentRxBucket)).map (Prod.mk ())) := by
  unfold handlePacket packetCalls
  rw [dispatch_handled]
  cases kind : ethertype packetSlice with
  | none => exact spends_missing _ rfl
  | some ethertype =>
    rw [Option.bind_some]
    apply spends_orPanic _ rfl
    apply spends_bind (spends_heap (by decide) (tapText growth packetSlice ethertype).calls)
    intro used
    apply spends_print
    have printed := ready.print (tapMessage packetSlice ethertype) 0x8B5CF6
    have spends := handled_spends growth { system with
      used := used
      kernel := system.kernel.terminalPrint (tapMessage packetSlice ethertype) 0x8B5CF6 } printed
        packetSlice ethertype
    cases short : tooShort packetSlice ethertype with
    | true =>
      rw [handled_tooShort _ short] at spends ⊢
      rw [if_pos rfl, List.append_nil]
      exact spends_panic spends
    | false =>
      obtain ⟨after, next, done, transmits⟩ := handled_safely printed short
      obtain ⟨final, released⟩ := release_served transmits inside
      rw [done] at spends ⊢
      rw [Option.bind_some, released]
      apply spends_bind spends
      intro used
      apply spends_after _ released
      exact spends_heap (by decide) _

theorem poll_spends (system : System) (ready : system.kernel.Ready nic) :
    Spends watched (poll growth) system (pollCalls growth system.kernel) system.kernel.poll := by
  unfold poll pollCalls Kernel.poll
  apply spends_look
  rw [ready.card]
  apply spends_orPanic _ rfl
  simp only [Option.bind_eq_bind, Option.bind_some]
  cases slice : system.kernel.packetSlice nic with
  | none => exact spends_missing _ rfl
  | some current =>
    apply spends_orPanic _ rfl
    cases current with
    | none => exact spends_pure false
    | some packetSlice =>
      have inside := packetSlice_inside slice
      have spends := spends_answer (handlePacket_spends growth system ready inside packetSlice) true
      have same : ((system.kernel.dispatch packetSlice).bind (release nic.currentRxBucket)).map
          (Prod.mk true) = (system.kernel.dispatch packetSlice).bind fun kernel =>
            kernel.netCard.bind fun card => (card.release nic.currentRxBucket).bind fun card =>
              some (true, { kernel with netCard := some card }) := by
        rw [Option.map_bind]
        refine Option.bind_congr fun kernel _ => ?_
        simp only [Function.comp, release, Option.bind_eq_bind, Option.map_bind]
        rfl
      rw [same] at spends
      exact spends

end System

end QoreOS.Runtime
