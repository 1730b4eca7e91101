import JLinkMcp.TaskProgram

/-! The paths of a program, programs whose calls are programs themselves, and programs that raise,
catch and clean up. -/

namespace TaskProgram

section paths

variable {Call : Type} {Reply : Call → Type} {Ghost α : Type} {discipline : Discipline Call Reply Ghost}
  {ghost : Ghost} {program last : Task Call Reply α}

/-- A call and what was replied. -/
structure Turn (Call : Type) (Reply : Call → Type) where
  call : Call
  reply : Reply call

/-- The program takes these turns and stands there then. -/
inductive Path : Task Call Reply α → List (Turn Call Reply) → Task Call Reply α → Prop
  | here (program : Task Call Reply α) : Path program [] program
  | turn {call : Call} {rest : Reply call → Task Call Reply α} {reply : Reply call}
      {turns : List (Turn Call Reply)} {last : Task Call Reply α} (path : Path (rest reply) turns last) :
      Path (.ask call rest) (⟨call, reply⟩ :: turns) last

/-- What is known after the turns. -/
def Discipline.after (discipline : Discipline Call Reply Ghost) (ghost : Ghost)
    (turns : List (Turn Call Reply)) : Ghost :=
  turns.foldl (fun ghost turn => discipline.next ghost turn.call turn.reply) ghost

/-- Every reply is one that the discipline expects. -/
def Discipline.Expected (discipline : Discipline Call Reply Ghost) :
    Ghost → List (Turn Call Reply) → Prop
  | _, [] => True
  | ghost, turn :: turns => discipline.replied ghost turn.call turn.reply ∧
      discipline.Expected (discipline.next ghost turn.call turn.reply) turns

theorem Follows.along {post : α → Ghost → Prop} {turns : List (Turn Call Reply)}
    (h : Follows discipline ghost program post) (path : Path program turns last)
    (expected : discipline.Expected ghost turns) :
    Follows discipline (discipline.after ghost turns) last post := by
  induction path generalizing ghost with
  | here => exact h
  | turn path ih => exact ih (h.2 _ expected.1) expected.2

/-- What the program asks for at the end of a path. -/
theorem Follows.may_of_path {post : α → Ghost → Prop} {turns : List (Turn Call Reply)} {call : Call}
    {rest : Reply call → Task Call Reply α} (h : Follows discipline ghost program post)
    (path : Path program turns (.ask call rest)) (expected : discipline.Expected ghost turns) :
    discipline.may (discipline.after ghost turns) call := (h.along path expected).1

/-- What the program ends with at the end of a path. -/
theorem Follows.post_of_path {post : α → Ghost → Prop} {turns : List (Turn Call Reply)} {value : α}
    (h : Follows discipline ghost program post) (path : Path program turns (.done value))
    (expected : discipline.Expected ghost turns) : post value (discipline.after ghost turns) :=
  h.along path expected

/-- Where every reply is expected, every path is. -/
theorem Discipline.expected_of_any (h : ∀ ghost call reply, discipline.replied ghost call reply)
    (ghost : Ghost) (turns : List (Turn Call Reply)) : discipline.Expected ghost turns := by
  induction turns generalizing ghost with
  | nil => trivial
  | cons turn turns ih => exact ⟨h _ _ _, ih _⟩

theorem Discipline.after_concat (ghost : Ghost) (turns : List (Turn Call Reply)) (turn : Turn Call Reply) :
    discipline.after ghost (turns ++ [turn]) =
      discipline.next (discipline.after ghost turns) turn.call turn.reply := by
  rw [Discipline.after, List.foldl_append]
  rfl

theorem Discipline.expected_concat {turns : List (Turn Call Reply)} {turn : Turn Call Reply} :
    discipline.Expected ghost (turns ++ [turn]) ↔ discipline.Expected ghost turns ∧
      discipline.replied (discipline.after ghost turns) turn.call turn.reply := by
  induction turns generalizing ghost with
  | nil => exact and_comm
  | cons first turns ih => exact (and_congr_right fun _ => ih).trans and_assoc.symm

/-- Whether every reply is expected can be decided turn by turn. -/
def Discipline.decidableExpected (discipline : Discipline Call Reply Ghost)
    (replied : ∀ ghost call reply, Decidable (discipline.replied ghost call reply)) :
    (ghost : Ghost) → (turns : List (Turn Call Reply)) → Decidable (discipline.Expected ghost turns)
  | _, [] => .isTrue trivial
  | ghost, turn :: turns =>
    have := replied ghost turn.call turn.reply
    have := discipline.decidableExpected replied (discipline.next ghost turn.call turn.reply) turns
    inferInstanceAs (Decidable (_ ∧ _))

/-- What is known is the whole history, and every reply keeps what is promised. -/
def recording (may : List (Turn Call Reply) → Call → Prop) (promised : (call : Call) → Reply call → Prop) :
    Discipline Call Reply (List (Turn Call Reply)) where
  may := may
  replied _ call reply := promised call reply
  next turns call reply := turns ++ [⟨call, reply⟩]

section recording

variable {may : List (Turn Call Reply) → Call → Prop} {promised : (call : Call) → Reply call → Prop}
  {turns : List (Turn Call Reply)}

theorem after_recording (history turns : List (Turn Call Reply)) :
    (recording may promised).after history turns = history ++ turns := by
  induction turns generalizing history with
  | nil => exact (List.append_nil history).symm
  | cons turn turns ih =>
    refine (ih (history ++ [turn])).trans ?_
    rw [List.append_assoc, List.singleton_append]

theorem expected_recording (kept : ∀ turn ∈ turns, promised turn.call turn.reply)
    (history : List (Turn Call Reply)) : (recording may promised).Expected history turns := by
  induction turns generalizing history with
  | nil => trivial
  | cons turn turns ih =>
    exact ⟨kept turn List.mem_cons_self, ih (fun later hlater => kept later (List.mem_cons_of_mem _ hlater)) _⟩

/-- What the program says of its whole history where it ends. -/
theorem Follows.of_history {post : α → List (Turn Call Reply) → Prop} {value : α}
    (h : Follows (recording may promised) [] program post) (path : Path program turns (.done value))
    (kept : ∀ turn ∈ turns, promised turn.call turn.reply) : post value turns := by
  have hpost := h.post_of_path path (expected_recording kept [])
  rw [after_recording] at hpost
  exact hpost

end recording

/-- A program keeps to another discipline whose knowledge is related, where its own calls are allowed there
and the replies that are expected there are expected here. -/
theorem Follows.simulated {Ghost' : Type} {discipline' : Discipline Call Reply Ghost'}
    {related : Ghost → Ghost' → Prop}
    (calls : ∀ ghost ghost' call, related ghost ghost' → discipline.may ghost call → discipline'.may ghost' call ∧
      ∀ reply, discipline'.replied ghost' call reply → discipline.replied ghost call reply ∧
        related (discipline.next ghost call reply) (discipline'.next ghost' call reply))
    {ghost' : Ghost'} (start : related ghost ghost') {post : α → Ghost → Prop}
    (h : Follows discipline ghost program post) :
    Follows discipline' ghost' program fun value ghost' => ∃ ghost, related ghost ghost' ∧ post value ghost := by
  induction program generalizing ghost ghost' with
  | done value => exact ⟨ghost, start, h⟩
  | ask call rest ih =>
    obtain ⟨may, next⟩ := calls ghost ghost' call start h.1
    refine ⟨may, fun reply hreply => ?_⟩
    obtain ⟨expected, after⟩ := next reply hreply
    exact ih reply after (h.2 reply expected)

/-- The turns that the program takes with these replies before it asks for a call that is looked for, and
where it stands then. -/
def turnsTo (answer : Nat → (call : Call) → Reply call) (sought : Call → Bool) :
    Nat → Task Call Reply α → List (Turn Call Reply) × Task Call Reply α
  | _, .done value => ([], .done value)
  | count, .ask call rest =>
    if sought call then ([], .ask call rest)
    else
      let later := turnsTo answer sought (count + 1) (rest (answer count call))
      (⟨call, answer count call⟩ :: later.1, later.2)

theorem path_turnsTo (answer : Nat → (call : Call) → Reply call) (sought : Call → Bool) (count : Nat)
    (program : Task Call Reply α) :
    Path program (turnsTo answer sought count program).1 (turnsTo answer sought count program).2 := by
  induction program generalizing count with
  | done value => exact .here _
  | ask call rest ih =>
    rw [turnsTo]
    split
    next => exact .here _
    next => exact .turn (ih (answer count call) (count + 1))

theorem replies_turnsTo (answer : Nat → (call : Call) → Reply call) (sought : Call → Bool) (count : Nat)
    (program : Task Call Reply α) :
    ∀ turn ∈ (turnsTo answer sought count program).1, ∃ count, turn.reply = answer count turn.call := by
  induction program generalizing count with
  | done value => exact fun _ h => (nomatch h)
  | ask call rest ih =>
    rw [turnsTo]
    split
    next => exact fun _ h => (nomatch h)
    next =>
      intro turn hturn
      rcases List.mem_cons.mp hturn with rfl | hturn
      · exact ⟨count, rfl⟩
      · exact ih (answer count call) (count + 1) turn hturn

end paths

section interpret

variable {Call Call' : Type} {Reply : Call → Type} {Reply' : Call' → Type} {Ghost Ghost' α : Type}
  {implement : (call : Call) → Task Call' Reply' (Reply call)}

/-- The program with every call replaced by the program that it stands for. -/
def interpret (implement : (call : Call) → Task Call' Reply' (Reply call)) :
    Task Call Reply α → Task Call' Reply' α
  | .done value => .done value
  | .ask call rest => (implement call).bind fun reply => interpret implement (rest reply)

/-- Two disciplines whose knowledge is related, call by call. -/
theorem follows_interpret {discipline : Discipline Call Reply Ghost} {discipline' : Discipline Call' Reply' Ghost'}
    {related : Ghost → Ghost' → Prop}
    (calls : ∀ ghost ghost' call, related ghost ghost' → discipline.may ghost call →
      Follows discipline' ghost' (implement call) fun reply ghost' =>
        discipline.replied ghost call reply ∧ related (discipline.next ghost call reply) ghost')
    {ghost : Ghost} {ghost' : Ghost'} (start : related ghost ghost') {program : Task Call Reply α}
    {post : α → Ghost → Prop} (h : Follows discipline ghost program post) :
    Follows discipline' ghost' (interpret implement program) fun value ghost' =>
      ∃ ghost, related ghost ghost' ∧ post value ghost := by
  induction program generalizing ghost ghost' with
  | done value => exact ⟨ghost, start, h⟩
  | ask call rest ih =>
    refine follows_bind (calls ghost ghost' call start h.1) fun reply ghost' known => ?_
    exact ih reply known.2 (h.2 reply known.1)

end interpret

section control

variable {Call : Type} {Reply : Call → Type} {Ghost α β ε : Type} {discipline : Discipline Call Reply Ghost}
  {ghost : Ghost}

/-- `try: body finally: cleanup`; what the cleanup raises takes the place of what the body did. -/
def ensuring (body : ExceptT ε (Task Call Reply) α) (cleanup : ExceptT ε (Task Call Reply) Unit) :
    ExceptT ε (Task Call Reply) α :=
  ExceptT.mk (body.run.bind fun result => cleanup.run.bind fun cleaned =>
    .done (match cleaned with
      | .ok _ => result
      | .error error => .error error))

/-- `try: body except …: handler`, for the errors that the clause names. -/
def catching (body : ExceptT ε (Task Call Reply) α) (clause : ε → Bool)
    (handler : ε → ExceptT ε (Task Call Reply) α) : ExceptT ε (Task Call Reply) α :=
  ExceptT.mk (body.run.bind fun
    | .ok value => .done (.ok value)
    | .error error => if clause error then (handler error).run else .done (.error error))

theorem follows_ensuring {body : ExceptT ε (Task Call Reply) α} {cleanup : ExceptT ε (Task Call Reply) Unit}
    {middle post : Except ε α → Ghost → Prop} (first : Follows discipline ghost body.run middle)
    (cleans : ∀ result ghost, middle result ghost → Follows discipline ghost cleanup.run fun cleaned ghost =>
      post (match cleaned with
        | .ok _ => result
        | .error error => .error error) ghost) :
    Follows discipline ghost (ensuring body cleanup).run post := by
  refine follows_bind first fun result ghost h => ?_
  refine follows_bind (cleans result ghost h) fun cleaned ghost h => ?_
  exact follows_done h

theorem follows_catching {body : ExceptT ε (Task Call Reply) α} {clause : ε → Bool}
    {handler : ε → ExceptT ε (Task Call Reply) α} {middle post : Except ε α → Ghost → Prop}
    (first : Follows discipline ghost body.run middle)
    (value : ∀ value ghost, middle (.ok value) ghost → post (.ok value) ghost)
    (caught : ∀ error ghost, middle (.error error) ghost → clause error = true →
      Follows discipline ghost (handler error).run post)
    (raised : ∀ error ghost, middle (.error error) ghost → clause error = false → post (.error error) ghost) :
    Follows discipline ghost (catching body clause handler).run post := by
  refine follows_bind first fun result ghost h => ?_
  cases result with
  | ok a => exact follows_done (value a ghost h)
  | error error =>
    dsimp only
    split
    next hclause => exact caught error ghost h hclause
    next hclause => exact follows_done (raised error ghost h (Bool.eq_false_iff.mpr hclause))

end control

section maintains

variable {Call : Type} {Reply : Call → Type} {Ghost α β ε : Type} {discipline : Discipline Call Reply Ghost}
  {holds : Ghost → Prop}

/-- Whatever the program ends with, it keeps what is known so. -/
def Maintains (discipline : Discipline Call Reply Ghost) (holds : Ghost → Prop)
    (program : ExceptT ε (Task Call Reply) α) : Prop :=
  ∀ ghost, holds ghost → Follows discipline ghost program.run fun _ after => holds after

/-- The call may be made and keeps what is known so. -/
def Discipline.Keeps (discipline : Discipline Call Reply Ghost) (holds : Ghost → Prop) (call : Call) : Prop :=
  ∀ ghost, holds ghost → discipline.may ghost call ∧
    ∀ reply, discipline.replied ghost call reply → holds (discipline.next ghost call reply)

theorem maintains_pure (value : α) : Maintains discipline holds (pure value : ExceptT ε (Task Call Reply) α) := fun _ h => h

theorem maintains_throw (error : ε) :
    Maintains discipline holds (throw error : ExceptT ε (Task Call Reply) α) := fun _ h => h

theorem maintains_done (result : Except ε α) :
    Maintains discipline holds (ExceptT.mk (.done result) : ExceptT ε (Task Call Reply) α) := fun _ h => h

theorem maintains_then {program : ExceptT ε (Task Call Reply) α} {next : α → ExceptT ε (Task Call Reply) β}
    (first : Maintains discipline holds program) (rest : ∀ value, Maintains discipline holds (next value)) :
    Maintains discipline holds (program >>= next) := fun ghost h =>
  follows_then (first ghost h) (fun value after hafter => rest value after hafter) fun _ _ hafter => hafter

theorem maintains_catching {body : ExceptT ε (Task Call Reply) α} {clause : ε → Bool}
    {handler : ε → ExceptT ε (Task Call Reply) α} (first : Maintains discipline holds body)
    (caught : ∀ error, Maintains discipline holds (handler error)) :
    Maintains discipline holds (catching body clause handler) := fun ghost h =>
  follows_catching (first ghost h) (fun _ _ hafter => hafter)
    (fun error after hafter _ => caught error after hafter) fun _ _ hafter _ => hafter

/-- A program of calls that keep what is known, whatever is made of their replies. -/
theorem maintains_mk {program : Task Call Reply (Except ε α)}
    (h : ∀ ghost, holds ghost → Follows discipline ghost program fun _ after => holds after) :
    Maintains discipline holds (ExceptT.mk program) := h

theorem follows_keeps {call : Call} (keeps : discipline.Keeps holds call) {ghost : Ghost} (h : holds ghost) :
    Follows discipline ghost (.call call) fun _ after => holds after :=
  ⟨(keeps ghost h).1, (keeps ghost h).2⟩

end maintains

end TaskProgram
