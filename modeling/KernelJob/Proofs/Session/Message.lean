import KernelJob.Proofs.Session.Drain

/-! # What the messages of a kernel say

A message has a type, the header of the request that it answers, and a content. What it says about
the unit that is executed can be read off it without executing anything: the output that it brings,
the error that it reports, and whether the kernel is idle again.

* **`Message`**, **`Message.ofJson?`** — a message in parts, and the values that have these parts.
* **`Message.output?`**, **`Message.fault?`**, **`Message.isIdle`** — what it says.
* **`ownMessages`**, **`untilIdle`** — the messages about a request among some polls, and the polls
  up to the one that says that the kernel is idle again.
* **`Answer`** — what these messages make of a unit. -/

namespace KernelJob

/-- **A message in parts.** -/
structure Message where
  /-- The type in its header. -/
  type : Text
  /-- The header of the request that it answers. -/
  parent : Fields
  content : Fields

namespace Message

/-- The parts of a value that has those of a message: a header with a text for its type, and objects
for the parent and the content, which are empty if they are missing. -/
def ofJson? : Json → Option Message
  | .object fields =>
    match Fields.get? "header" fields, (Fields.get? "parent_header" fields).getD (.object []),
      (Fields.get? "content" fields).getD (.object []) with
    | some (.object header), .object parent, .object content =>
      match Fields.get? "msg_type" header with
      | some (.text type) => some ⟨type, parent, content⟩
      | _ => none
    | _, _, _ => none
  | _ => none

/-- Whether a message is about a request. -/
def isAbout (request : Text) (m : Message) : Bool :=
  ((m.parent.get? "msg_id").getD .null).isText request

/-- **The output that a message brings**, if its content has the form of its type: streamed text,
the plain text of a value unless that is empty, or the lines of a traceback without colours. -/
def output? (m : Message) : Option (List OutputStep) :=
  if m.type = "stream" then
    match (m.content.get? "text").getD (.text []) with
    | .text t => some [.text t]
    | _ => none
  else if m.type = "execute_result" ∨ m.type = "display_data" then
    match (m.content.get? "data").getD (.object []) with
    | .object data =>
      match Fields.get? "text/plain" data with
      | none => some []
      | some v => v.sourceText?.map fun t => if v.isPresent then [.block t] else []
    | _ => none
  else if m.type = "error" then
    match (m.content.get? "traceback").getD (.list []) with
    | .list items => (Json.texts? items).map fun ts => ts.map fun t => .block t.stripColours
    | _ => none
  else some []

/-- **The error that a message reports.** -/
def fault? (m : Message) : Option CodeFault :=
  if m.type = "error" then
    some ⟨(m.content.get? "ename").getD (.text "Error"), (m.content.get? "evalue").getD (.text []),
      (m.content.get? "traceback").getD (.list [])⟩
  else none

/-- **Whether a message says that the kernel is idle again.** -/
def isIdle (m : Message) : Bool :=
  m.type = "status" && ((m.content.get? "execution_state").getD .null).isText "idle"

/-- Only a state of the kernel says that it is idle. -/
theorem isIdle_of_ne {m : Message} (h : m.type ≠ "status") : m.isIdle = false := by
  rw [isIdle, decide_eq_false h, Bool.false_and]

/-- Only an error reports one. -/
theorem fault?_of_ne {m : Message} (h : m.type ≠ "error") : m.fault? = none := by
  rw [fault?, if_neg h]

/-- A message of another type than those with output brings none. -/
theorem output?_of_ne {m : Message} (hstream : m.type ≠ "stream")
    (hrich : ¬ (m.type = "execute_result" ∨ m.type = "display_data")) (herror : m.type ≠ "error") :
    m.output? = some [] := by
  rw [output?, if_neg hstream, if_neg hrich, if_neg herror]

/-- The output that some messages bring. -/
def outputOf (ms : List Message) : List OutputStep := ms.flatMap fun m => m.output?.getD []

/-- The last error that some messages report. -/
def faultIn (ms : List Message) : Option CodeFault := (ms.filterMap fault?).getLast?

@[simp] theorem outputOf_nil : outputOf [] = [] := rfl

@[simp] theorem outputOf_cons (m : Message) (ms : List Message) :
    outputOf (m :: ms) = m.output?.getD [] ++ outputOf ms := rfl

@[simp] theorem faultIn_nil : faultIn [] = none := rfl

/-- The error of a message counts if no later message reports one. -/
theorem faultIn_cons (m : Message) (ms : List Message) :
    faultIn (m :: ms) = (faultIn ms).or m.fault? := by
  unfold faultIn
  rw [List.filterMap_cons]
  cases m.fault? with
  | none => simp
  | some f => rw [List.getLast?_cons, Option.or_some]

/-- A message that says that the kernel is idle brings no output and reports no error. -/
theorem of_isIdle {m : Message} (h : m.isIdle = true) : m.output? = some [] ∧ m.fault? = none := by
  have htype : m.type = "status" := by
    rw [isIdle, Bool.and_eq_true, decide_eq_true_eq] at h
    exact h.1
  constructor
  · refine output?_of_ne ?_ ?_ ?_ <;> rw [htype] <;> decide
  · exact fault?_of_ne (by rw [htype]; decide)

end Message

/-! ## Polls -/

namespace Poll

/-- The message that a poll brings in the answer to a request, if it brings one. -/
def message? (request : Text) (p : Poll) : Option Message :=
  match p.delivery with
  | .message toRequest => Message.ofJson? (toRequest request)
  | _ => none

/-- The message about a request that a poll brings, if it brings one. -/
def own? (request : Text) (p : Poll) : Option Message :=
  (p.message? request).filter (Message.isAbout request)

/-- **A poll that brings a well-formed message or none.** The message has the parts of one, and a
content of the form of its type. -/
def WellFormed (request : Text) (p : Poll) : Prop :=
  match p.delivery with
  | .message toRequest =>
    ∃ m, Message.ofJson? (toRequest request) = some m ∧ m.output?.isSome = true
  | .empty => True
  | _ => False

/-- Whether a poll brings the message that the kernel is idle again after a request. -/
def endsWait (request : Text) (p : Poll) : Bool := (p.own? request).any Message.isIdle

end Poll

/-- **The polls up to the first message that the kernel is idle again** after a request. -/
def untilIdle (request : Text) : List Poll → List Poll
  | [] => []
  | p :: ps => if p.endsWait request then [p] else p :: untilIdle request ps

/-- A poll that does not end a wait leaves the rest to be heard, and the wait ends there. -/
theorem untilIdle_cons_of_goesOn {request : Text} {p : Poll} {ps : List Poll}
    (hend : p.endsWait request = false) (hidle : ∃ q ∈ p :: ps, q.endsWait request = true) :
    untilIdle request (p :: ps) = p :: untilIdle request ps ∧
      ∃ q ∈ ps, q.endsWait request = true := by
  refine ⟨by rw [untilIdle, hend]; rfl, ?_⟩
  obtain ⟨q, hq, hqend⟩ := hidle
  rcases List.mem_cons.mp hq with rfl | hq
  · rw [hend] at hqend
    cases hqend
  · exact ⟨q, hq, hqend⟩

/-- **The messages about a request** that some polls bring. -/
def ownMessages (request : Text) (ps : List Poll) : List Message := ps.filterMap (Poll.own? request)

@[simp] theorem ownMessages_nil (request : Text) : ownMessages request [] = [] := rfl

theorem ownMessages_cons (request : Text) (p : Poll) (ps : List Poll) :
    ownMessages request (p :: ps) = (p.own? request).toList ++ ownMessages request ps := by
  rw [ownMessages, List.filterMap_cons]
  cases p.own? request <;> rfl

/-- The clock after some polls. -/
def clockAfter (now : Float) (ps : List Poll) : Float := ps.foldl Poll.clockAfter now

/-! ## Answers -/

/-- **The answer of a kernel to a unit**: the messages about it, up to the one that says that the
kernel is idle again. -/
structure Answer where
  /-- The number of the unit. -/
  unit : Int
  /-- The most lines of output that are kept. -/
  limit : Int
  messages : List Message

namespace Answer

/-- All lines of output. -/
def lines (a : Answer) : List Text := OutputStep.allLines (Message.outputOf a.messages)

/-- The error that the unit failed with. -/
def fault? (a : Answer) : Option CodeFault := Message.faultIn a.messages

/-- **The result of the unit**: the first lines of its output, and the error if there is one. -/
def result (a : Answer) (elapsed : Int) : UnitResult where
  sequenceNumber := a.unit
  output := Text.join [newline] (a.lines.take a.limit.toNat)
  truncated := a.limit.toNat < a.lines.length
  elapsed := elapsed
  outcome := if a.fault?.isSome then .fault else .success
  error := (a.fault?.map CodeFault.message).getD []

/-- **How the unit ends**: with its result, to which the failure of a unit that failed is added. -/
def outcome (a : Answer) (elapsed : Int) : Except Failure UnitResult :=
  match a.fault? with
  | some fault => .error (.code fault (a.result elapsed))
  | none => .ok (a.result elapsed)

/-- How the unit ends if it was submitted and ended at these times: a time that no clock can measure
is a failure of its own. -/
def outcomeBetween (a : Answer) (start now : Float) : Except Failure UnitResult :=
  match Session.elapsedMilliseconds start now with
  | .ok elapsed => a.outcome elapsed
  | .error fault => .error (.clock fault)

end Answer

end KernelJob
