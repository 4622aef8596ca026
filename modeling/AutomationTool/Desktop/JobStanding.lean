import AutomationTool.Desktop.Listening

/-!
# Where the worker stands to the host's job

`Stand W h` says where the worker is with the job of which the host, once it has read all
that is in flight, knows `h`: its start is unread, or accepted, or at work, or a smart edit
waits to be committed, or it is over.

`act_advances`: whatever the worker does, what it adds to the flight is heard by the host,
and the worker stands where the host will know it to stand. The commit timer must not fire
while a line of the worker is still to be printed, and the loop must not read a cancellation
when no operation is active.
-/
namespace AutomationTool.Desktop

open Executor.EditingWorker

/-! ## The flight -/

/-- Lines of one command. -/
def numbered (number : Nat) (lines : List Line) : List (Nat × Line) :=
  lines.map fun line => (number, line)

@[simp] theorem numbered_nil (n : Nat) : numbered n [] = [] := rfl

theorem numbered_append (n : Nat) (xs ys : List Line) :
    numbered n (xs ++ ys) = numbered n xs ++ numbered n ys := List.map_append

/-- What the host will read, in order: lines printed, then lines produced. -/
def flight (W : Worker) : List (Nat × Line) :=
  W.sink ++ (W.threads.flatMap fun t => numbered t.number t.out) ++ W.loopOut

section Flight
variable {W : Worker} {n : Nat} {out : List Line} {task : Option Task}

theorem flight_one (h : W.threads = [⟨n, out, task⟩]) (hloop : W.loopOut = []) :
    flight W = W.sink ++ numbered n out := by
  simp [flight, h, hloop]

theorem flight_none (h : W.threads = []) (hloop : W.loopOut = []) : flight W = W.sink := by
  simp [flight, h, hloop]

theorem flight_settle {t t' : Thread} (h : W.threads = [t]) (hloop : W.loopOut = []) :
    flight (W.settle 0 t') = W.sink ++ numbered t'.number t'.out := by
  unfold flight
  rw [settle_threads h]
  split
  · rename_i hover
    simp [Worker.settle, hloop, hover.1]
  · simp [Worker.settle, hloop]

theorem flight_print {line : Line} (h : W.threads = [⟨n, line :: out, task⟩])
    (hloop : W.loopOut = []) :
    flight ((W.print n line).settle 0 ⟨n, out, task⟩) = flight W := by
  rw [flight_settle (W := W.print n line) h hloop, flight_one h hloop]
  simp [Worker.print, numbered]

end Flight

/-! ## Standing -/

/-- Nothing of the worker is at work; a cancellation may be left to carry out. -/
structure Quiet (W : Worker) : Prop where
  active : W.active = none
  command : ∀ p, W.command = some p → ∃ j, p.2 = .cancel j
  loopOut : W.loopOut = []
  threads : W.threads = []
  staged : W.smartStaged = none
  timer : W.smartCommitTimer = none

/-- Commands that are cancellations, of a job whose cancellation the host requested. -/
def Cancellations (h : Heard) (commands : List Command) : Prop :=
  ∀ c ∈ commands, (∃ j, c = .cancel j) ∧ h.cancelling = true

/-- What the smart edit thread finds at each of its points. -/
def SmartEditing (W : Worker) (h : Heard) (a : ActiveJob) : SmartEditPc → Prop
  | .generating _ | .writing => a.awaitingCommit = false ∧ W.smartStaged = none
  | .prepared job | .publishing job => a.awaitingCommit = false ∧ W.smartStaged = none ∧
      job.number = h.number ∧ job.jobId = h.jobId
  | .aborting _ | .cancelling _ =>
    a.awaitingCommit = false ∧ W.smartStaged = none ∧ a.cancelling = true
  | .recovering _ => ∀ staged, W.smartStaged = some staged → staged.jobId = h.jobId
  | .rejected _ _ | .failing _ => W.smartStaged = none

inductive Stand (W : Worker) (h : Heard) : Prop where
  | sent {command : Command} {l : List Command} (hquiet : Quiet W)
      (hstdin : W.stdin = command :: l)
      (haccepts : acceptCommand none command =
        some (.job { jobId := h.jobId, operation := h.operation }))
      (hcancels : Cancellations h l) (hnumber : h.number = W.read) (hlast : h.last = none)
      (hprepared : h.prepared = none) (hlive : h.terminal = false) : Stand W h
  | starting {command : Command} (hcommand : W.command = some (h.number, command))
      (hbegun : command.begun = some (.job { jobId := h.jobId, operation := h.operation }))
      (hactive : W.active = some (.job { jobId := h.jobId, operation := h.operation }))
      (hthreads : W.threads = []) (hloop : W.loopOut = []) (hstaged : W.smartStaged = none)
      (htimer : W.smartCommitTimer = none) (hcancels : Cancellations h W.stdin)
      (hlast : h.last = none) (hprepared : h.prepared = none) (hlive : h.terminal = false) :
      Stand W h
  | rendering {a : ActiveJob} {l : List Line} {p : RenderPc} (hop : h.operation = .editing)
      (hactive : W.active = some (.job a)) (hagrees : Agrees h a)
      (hthreads : W.threads = [⟨h.number, l, some (.render h.jobId p)⟩])
      (hat : p = .cancelling → a.cancelling = true) (hasked : Cancels W a)
      (hloop : W.loopOut = []) (hstaged : W.smartStaged = none)
      (htimer : W.smartCommitTimer = none) (hcancels : Cancellations h W.stdin)
      (hprepared : h.prepared = none) : Stand W h
  | generating {a : ActiveJob} {l : List Line} {p : SmartEditPc}
      (hop : h.operation = .smartEdit) (hactive : W.active = some (.job a)) (hagrees : Agrees h a)
      (hthreads : W.threads = [⟨h.number, l, some (.smartEdit h.jobId p)⟩])
      (hat : SmartEditing W h a p) (hasked : Cancels W a) (hfinalizing : a.finalizing = none)
      (hloop : W.loopOut = []) (htimer : W.smartCommitTimer = none)
      (hcancels : Cancellations h W.stdin) (hprepared : h.prepared = none) : Stand W h
  | awaiting {a : ActiveJob} {s : Staged} (hop : h.operation = .smartEdit)
      (hactive : W.active = some (.job a)) (hagrees : Agrees h a)
      (hthreads : (∃ line, W.threads = [⟨h.number, [line], none⟩]) ∨ W.threads = [])
      (hawaiting : a.awaitingCommit = true) (hdigest : a.resultDigest = some s.resultDigest)
      (hcancelling : a.cancelling = false) (hfinalizing : a.finalizing = none)
      (hstaged : W.smartStaged = some s) (hjob : s.jobId = h.jobId)
      (hnumber : s.number = h.number) (htimer : W.smartCommitTimer = some h.jobId)
      (hcommand : W.command = none) (hloop : W.loopOut = [])
      (hcancels : Cancellations h W.stdin)
      (hprepared : ∀ digest, h.prepared = some digest → s.resultDigest = digest) : Stand W h
  | ended (hactive : W.active = none) (hcommand : ∀ p, W.command = some p → ∃ j, p.2 = .cancel j)
      (hthreads : (∃ out, out ≠ [] ∧ W.threads = [⟨h.number, out, none⟩]) ∨ W.threads = [])
      (hloop : W.loopOut = []) (hstaged : W.smartStaged = none)
      (htimer : W.smartCommitTimer = none) (hcancels : Cancellations h W.stdin)
      (hterminal : h.terminal = true) : Stand W h

/-- What the worker adds to the flight is heard, and it stands accordingly. -/
def Advances (W W' : Worker) (h : Heard) : Prop :=
  ∃ lines h', h.hearAll lines = some h' ∧ flight W' = flight W ++ numbered h.number lines ∧
    Stand W' h'

section Advance
variable {W W' : Worker} {h : Heard}

theorem Advances.silent (hflight : flight W' = flight W) (hs : Stand W' h) : Advances W W' h :=
  ⟨[], h, rfl, by rw [hflight, numbered_nil, List.append_nil], hs⟩

theorem Cancellations.tail {c : Command} {commands : List Command}
    (hc : Cancellations h (c :: commands)) : Cancellations h commands :=
  fun d hd => hc d (List.mem_cons_of_mem _ hd)

/-! ## The loop -/

/-- The loop reads a command; a cancellation only while an operation is active. -/
theorem take_advances (hs : Stand W h) (hw : W.take = some W')
    (hH : ∀ j rest, W.stdin = .cancel j :: rest → W.active ≠ none) : Advances W W' h := by
  obtain ⟨hcommand, hout, command, stdin, hstdin, hcases⟩ := take_cases hw
  cases hs with
  | @sent start cancels hquiet hin haccepts hcancels hnumber hlast hprepared hlive =>
    rw [hstdin] at hin
    cases hin
    obtain ⟨active, haccept, rfl⟩ | ⟨haccept, -⟩ := hcases
    · rw [hquiet.active, haccepts] at haccept
      cases haccept
      refine .silent rfl (.starting (congrArg (fun n => some (n, command)) hnumber.symm)
        (accept_idle haccepts).2 rfl hquiet.threads hout hquiet.staged hquiet.timer hcancels hlast
        hprepared hlive)
    · rw [hquiet.active, haccepts] at haccept
      cases haccept
  | starting hc =>
    rw [hcommand] at hc
    cases hc
  | @rendering a out pc hop hactive hagrees hthreads hat hasked hloop hstaged htimer hcancels
      hprepared =>
    rw [hstdin] at hcancels
    obtain ⟨⟨j, rfl⟩, hasks⟩ := hcancels command (List.mem_cons_self)
    obtain ⟨active, haccept, rfl⟩ | ⟨-, rfl⟩ := hcases
    · rw [hactive] at haccept
      rcases accept_job haccept with ⟨-, -, -, rfl⟩ | ⟨action, d, hno, -⟩
      · exact .silent rfl (.rendering (a := { a with cancelling := true }) hop rfl
          ⟨hagrees.operation, hagrees.jobId, hagrees.last, fun _ => hasks, hagrees.live⟩ hthreads
          (fun _ => rfl) ⟨fun p hp => by cases hp; exact ⟨⟨_, rfl⟩, rfl⟩, fun _ => rfl⟩ hloop
          hstaged htimer hcancels.tail hprepared)
      · cases hno
    · rw [if_neg (by rw [hactive]; simp)]
      refine .silent (by simp [flight, hloop]) (.rendering hop hactive hagrees hthreads hat
        ⟨fun p hp => hasked.command p hp, hasked.requested⟩ rfl hstaged htimer hcancels.tail
        hprepared)
  | @generating a out pc hop hactive hagrees hthreads hat hasked hfin hloop htimer hcancels
      hprepared =>
    rw [hstdin] at hcancels
    obtain ⟨⟨j, rfl⟩, hasks⟩ := hcancels command (List.mem_cons_self)
    obtain ⟨active, haccept, rfl⟩ | ⟨-, rfl⟩ := hcases
    · rw [hactive] at haccept
      rcases accept_job haccept with ⟨-, -, -, rfl⟩ | ⟨action, d, hno, -⟩
      · refine .silent rfl (.generating (a := { a with cancelling := true }) hop rfl
          ⟨hagrees.operation, hagrees.jobId, hagrees.last, fun _ => hasks, hagrees.live⟩ hthreads
          ?_ ⟨fun p hp => by cases hp; exact ⟨⟨_, rfl⟩, rfl⟩, fun _ => rfl⟩ hfin hloop
          htimer hcancels.tail hprepared)
        cases pc <;> simp only [SmartEditing] at hat ⊢ <;> grind
      · cases hno
    · rw [if_neg (by rw [hactive]; simp)]
      refine .silent (by simp [flight, hloop]) (.generating hop hactive hagrees hthreads ?_
        ⟨fun p hp => hasked.command p hp, hasked.requested⟩ hfin rfl htimer hcancels.tail
        hprepared)
      cases pc <;> exact hat
  | @awaiting a job hop hactive hagrees hthreads hawaiting hdigest hcancelling hfin hstaged hjob
      hnumber htimer hc hloop hcancels hprepared =>
    rw [hstdin] at hcancels
    obtain ⟨⟨j, rfl⟩, hasks⟩ := hcancels command (List.mem_cons_self)
    obtain ⟨active, haccept, rfl⟩ | ⟨-, rfl⟩ := hcases
    · rw [hactive] at haccept
      rcases accept_job haccept with ⟨-, -, hno, -⟩ | ⟨action, d, hno, -⟩
      · rw [hawaiting] at hno
        cases hno
      · cases hno
    · rw [if_neg (by rw [hactive]; simp)]
      exact .silent (by simp [flight, hloop]) (.awaiting hop hactive hagrees hthreads hawaiting
        hdigest hcancelling hfin hstaged hjob hnumber htimer hc rfl hcancels.tail hprepared)
  | ended hactive hc hthreads hloop hstaged htimer hcancels hterminal =>
    rw [hstdin] at hcancels
    obtain ⟨⟨j, rfl⟩, -⟩ := hcancels command (List.mem_cons_self)
    exact absurd hactive (hH j stdin hstdin)

/-- The loop carries out what it accepted. -/
theorem dispatch_advances (hs : Stand W h) {committed removed : Bool}
    (hw : W.act (.dispatch committed removed) = some W') : Advances W W' h := by
  simp only [Worker.act] at hw
  split at hw
  rotate_left
  · cases hw
  rename_i n command hcommand
  cases hw
  cases hs with
  | sent hquiet hin haccepts hcancels hnumber hlast hprepared hlive =>
    obtain ⟨j, hj⟩ := hquiet.command _ hcommand
    dsimp only at hj
    subst hj
    exact .silent rfl (.sent ⟨hquiet.active, (fun p hp => by cases hp), hquiet.loopOut,
      hquiet.threads, hquiet.staged, hquiet.timer⟩ hin haccepts hcancels hnumber hlast hprepared
      hlive)
  | @starting start hc hbegun hactive hthreads hloop hstaged htimer hcancels hlast hprepared
      hlive =>
    rw [hcommand] at hc
    cases hc
    have hagrees : Agrees h { jobId := h.jobId, operation := h.operation } :=
      ⟨rfl, rfl, by cases hop : h.operation <;> simp [ActiveJob.last, hlast],
        (fun h => by cases h), hlive⟩
    have hcancelled : ∀ V : Worker, V.command = none → V.cancelRequested = false →
        Cancels V { jobId := h.jobId, operation := h.operation } := by
      intro V hV hV'
      exact ⟨fun p hp => by rw [hV] at hp; (cases hp), fun hp => by rw [hV'] at hp; cases hp⟩
    cases command with
    | editingStart j p l r =>
      simp only [Command.begun, Option.some.injEq, Active.job.injEq, ActiveJob.mk.injEq] at hbegun
      obtain ⟨hj, hop, -⟩ := hbegun
      subst hj
      refine .silent ?_ (.rendering (p := .preparing) (l := []) hop.symm hactive hagrees ?_
        (fun h => by cases h) (hcancelled _ rfl rfl) hloop hstaged htimer hcancels hprepared)
      · simp [flight, Worker.dispatch, hthreads]
      · simp [Worker.dispatch, hthreads]
    | smartEditStart j =>
      simp only [Command.begun, Option.some.injEq, Active.job.injEq, ActiveJob.mk.injEq] at hbegun
      obtain ⟨hj, hop, -⟩ := hbegun
      subst hj
      refine .silent ?_ (.generating (p := .generating .preparing) (l := []) hop.symm hactive
        hagrees ?_ ⟨rfl, hstaged⟩ (hcancelled _ rfl rfl) rfl hloop htimer hcancels hprepared)
      · simp [flight, Worker.dispatch, hthreads]
      · simp [Worker.dispatch, hthreads]
    | _ => cases hbegun
  | @rendering a out pc hop hactive hagrees hthreads hat hasked hloop hstaged htimer hcancels
      hprepared =>
    obtain ⟨⟨j, hj⟩, hasks⟩ := hasked.command _ hcommand
    dsimp only at hj
    subst hj
    exact .silent rfl (.rendering hop hactive hagrees hthreads hat
      ⟨(fun p hp => by cases hp), fun _ => hasks⟩ hloop hstaged htimer hcancels hprepared)
  | @generating a out pc hop hactive hagrees hthreads hat hasked hfin hloop htimer hcancels
      hprepared =>
    obtain ⟨⟨j, hj⟩, hasks⟩ := hasked.command _ hcommand
    dsimp only at hj
    subst hj
    refine .silent rfl (.generating hop hactive hagrees hthreads ?_
      ⟨(fun p hp => by cases hp), fun _ => hasks⟩ hfin hloop htimer hcancels hprepared)
    cases pc <;> exact hat
  | awaiting hop hactive hagrees hthreads hawaiting hdigest hcancelling hfin hstaged hjob hnumber
      htimer hc =>
    rw [hcommand] at hc
    cases hc
  | ended hactive hc hthreads hloop hstaged htimer hcancels hterminal =>
    obtain ⟨j, hj⟩ := hc _ hcommand
    dsimp only at hj
    subst hj
    exact .silent rfl (.ended hactive (fun p hp => by cases hp) hthreads hloop hstaged htimer
      hcancels hterminal)

/-! ## The threads -/

/-- A line that is printed was in flight. -/
theorem print_advances (hs : Stand W h) {i : Nat} (hw : W.act (.print i) = some W') :
    Advances W W' h := by
  simp only [Worker.act] at hw
  split at hw
  rotate_left
  · cases hw
  rename_i t hi
  split at hw
  rotate_left
  · cases hw
  rename_i line out hline
  cases hw
  cases hs with
  | sent hquiet =>
    rw [hquiet.threads] at hi
    cases hi
  | starting _ _ _ hnone =>
    rw [hnone] at hi
    cases hi
  | @rendering a lines pc hop hactive hagrees hthreads hat hasked hloop hstaged htimer hcancels
      hprepared =>
    obtain ⟨rfl, rfl⟩ := only_thread hthreads hi
    dsimp only at hline
    subst hline
    refine .silent (flight_print hthreads hloop) (.rendering (l := out) hop hactive hagrees ?_ hat
      ⟨hasked.command, hasked.requested⟩ hloop hstaged htimer hcancels hprepared)
    rw [settle_threads (W := W.print _ line) hthreads, if_neg (by rintro ⟨-, ⟨⟩⟩)]
  | @generating a lines pc hop hactive hagrees hthreads hat hasked hfin hloop htimer hcancels
      hprepared =>
    obtain ⟨rfl, rfl⟩ := only_thread hthreads hi
    dsimp only at hline
    subst hline
    refine .silent (flight_print hthreads hloop) (.generating (l := out) (p := pc) hop hactive
      hagrees ?_ ?_ ⟨hasked.command, hasked.requested⟩ hfin hloop htimer hcancels hprepared)
    · rw [settle_threads (W := W.print _ line) hthreads, if_neg (by rintro ⟨-, ⟨⟩⟩)]
    · cases pc <;> exact hat
  | awaiting hop hactive hagrees hthreads hawaiting hdigest hcancelling hfin hstaged hjob hnumber
      htimer hc hloop hcancels hprepared =>
    rcases hthreads with ⟨prepared, hone⟩ | hnone
    · obtain ⟨rfl, rfl⟩ := only_thread hone hi
      cases hline
      refine .silent (flight_print hone hloop) (.awaiting hop hactive hagrees (.inr ?_) hawaiting
        hdigest hcancelling hfin hstaged hjob hnumber htimer hc hloop hcancels hprepared)
      rw [settle_threads (W := W.print _ line) hone, if_pos ⟨rfl, rfl⟩]
    · rw [hnone] at hi
      cases hi
  | ended hactive hc hthreads hloop hstaged htimer hcancels hterminal =>
    rcases hthreads with ⟨lines, -, hone⟩ | hnone
    · obtain ⟨rfl, rfl⟩ := only_thread hone hi
      dsimp only at hline
      subst hline
      refine .silent (flight_print hone hloop) (.ended hactive hc ?_ hloop hstaged htimer hcancels
        hterminal)
      rw [settle_threads (W := W.print _ line) hone]
      cases out with
      | nil => exact .inr (if_pos ⟨rfl, rfl⟩)
      | cons next out => exact .inl ⟨next :: out, List.cons_ne_nil _ _, if_neg (by rintro ⟨⟨⟩, -⟩)⟩
    · rw [hnone] at hi
      cases hi

/-- The thread has produced its terminal event. -/
theorem ends_advances {a : ActiveJob} {task : Option Task} {lines : List Line} {h' : Heard}
    (hlines : lines ≠ []) (hheard : h.hearAll lines = some h') (hterminal : h'.terminal = true)
    (hthreads : W.threads = [⟨h.number, [], task⟩]) (hasked : Cancels W a) (hloop : W.loopOut = [])
    (hstaged : W.smartStaged = none) (htimer : W.smartCommitTimer = none)
    (hcancels : Cancellations h W.stdin) :
    Advances W (({ W with active := none } : Worker).settle 0 ⟨h.number, lines, none⟩) h := by
  obtain ⟨-, -, hnumber', hasks'⟩ := Heard.hearAll_same hheard
  refine ⟨lines, h', hheard, ?_, .ended rfl (fun p hp => (hasked.command p hp).1)
    (.inl ⟨lines, hlines, ?_⟩) hloop hstaged htimer (fun c hc => ?_) hterminal⟩
  · rw [flight_settle (W := { W with active := none }) hthreads hloop, flight_one hthreads hloop,
      numbered_nil, List.append_nil]
  · rw [settle_threads (W := { W with active := none }) hthreads, if_neg (fun h => hlines h.1),
      hnumber']
  · rw [hasks']
    exact hcancels c hc

/-- What is heard in one line. -/
theorem hearAll_single {line : Line} {h' : Heard} (hh : h.hear line = some h') :
    h.hearAll [line] = some h' := by
  rw [Heard.hearAll_cons, hh]
  rfl

section Render
variable {a : ActiveJob} {pc : RenderPc} {task : Option Task}

/-- The render thread goes on. -/
theorem renders_advances {a' : ActiveJob} {h' : Heard} {l : List Line}
    (hop : h.operation = .editing) (hheard : h.hearAll l = some h') (hagrees : Agrees h' a')
    (hcancelling : a'.cancelling = a.cancelling) (hthreads : W.threads = [⟨h.number, [], task⟩])
    (hat : pc = .cancelling → a'.cancelling = true) (hasked : Cancels W a)
    (hloop : W.loopOut = []) (hstaged : W.smartStaged = none) (htimer : W.smartCommitTimer = none)
    (hcancels : Cancellations h W.stdin) (hprepared : h'.prepared = none) :
    Advances W (({ W with active := some (.job a') } : Worker).settle 0
      ⟨h.number, l, some (.render h.jobId pc)⟩) h := by
  obtain ⟨hop', hjob', hnumber', hasks'⟩ := Heard.hearAll_same hheard
  refine ⟨l, h', hheard, ?_, .rendering (l := l) (hop'.trans hop) rfl hagrees ?_ hat
    ⟨?_, ?_⟩ hloop hstaged htimer ?_ hprepared⟩
  · rw [flight_settle (W := { W with active := some (.job a') }) hthreads hloop,
      flight_one hthreads hloop, numbered_nil, List.append_nil]
  · rw [settle_threads (W := { W with active := some (.job a') }) hthreads,
      if_neg (fun h => nomatch h.2), hnumber', hjob']
  · rw [hcancelling]
    exact hasked.command
  · rw [hcancelling]
    exact hasked.requested
  · intro c hc
    rw [hasks']
    exact hcancels c hc

theorem render_advances {o : Outcome} {W₁ : Worker} {t₁ : Thread} (hop : h.operation = .editing)
    (hactive : W.active = some (.job a)) (hagrees : Agrees h a)
    (hthreads : W.threads = [⟨h.number, [], some (.render h.jobId pc)⟩])
    (hat : pc = .cancelling → a.cancelling = true) (hasked : Cancels W a)
    (hloop : W.loopOut = []) (hstaged : W.smartStaged = none)
    (htimer : W.smartCommitTimer = none) (hcancels : Cancellations h W.stdin)
    (hprepared : h.prepared = none)
    (hw : W.renderStep ⟨h.number, [], some (.render h.jobId pc)⟩ h.jobId pc o = some (W₁, t₁)) :
    Advances W (W₁.settle 0 t₁) h := by
  have hsame : ({ W with active := some (.job a) } : Worker) = W := by rw [← hactive]
  have hgoes (pc' : RenderPc) (hat' : pc' = .cancelling → a.cancelling = true) :
      Advances W (W.settle 0 ⟨h.number, [], some (.render h.jobId pc')⟩) h := by
    have := renders_advances (l := []) hop rfl hagrees rfl hthreads hat' hasked hloop hstaged
      htimer hcancels hprepared
    rwa [hsame] at this
  have hends {line : Line} (hline : h.hear line = some { h with terminal := true }) :
      Advances W (({ W with active := none } : Worker).settle 0 ⟨h.number, [line], none⟩) h :=
    ends_advances (List.cons_ne_nil _ _) (hearAll_single hline) rfl hthreads hasked hloop hstaged
      htimer hcancels
  -- a progress report: the thread goes on, or fails when the protocol rejects it
  have hreports {phase : LocalEditingWorkerPhase} {n : Nat} (next : RenderPc)
      (hnext : next ≠ .cancelling)
      (hr : W.produce ⟨h.number, [], some (.render h.jobId pc)⟩
        (progress W.active h.jobId phase n) (some (.render h.jobId next))
        (some (.render h.jobId (.failing .renderFailed))) = (W₁, t₁)) :
      Advances W (W₁.settle 0 t₁) h := by
    rw [hactive] at hr
    unfold Worker.produce at hr
    split at hr
    · rename_i line active hline
      cases hr
      obtain ⟨rfl, hheard, hagrees'⟩ := hear_progress hagrees hprepared hline
      exact renders_advances (a := a) hop (hearAll_single hheard) hagrees' rfl hthreads
        (fun h => absurd h hnext) hasked hloop hstaged htimer hcancels hprepared
    · cases hr
      exact hgoes (.failing .renderFailed) (fun h => by cases h)
  cases pc with
  | preparing =>
    cases o with
    | done voiced => exact hreports .rendering (fun h => by cases h) (Option.some.inj hw)
    | _ => cases hw
  | rendering =>
    cases o with
    | done voiced => exact hreports .executing (fun h => by cases h) (Option.some.inj hw)
    | _ => cases hw
  | executing =>
    cases o with
    | rendered artifactId =>
      cases hw
      exact hgoes (.publishing artifactId) (fun h => by cases h)
    | cancelled =>
      simp only [Worker.renderStep] at hw
      split at hw
      · rename_i hrequested
        cases hw
        exact hgoes .cancelling fun _ => hasked.requested hrequested
      · cases hw
    | rejected failureCode =>
      cases hw
      exact hgoes (.failing failureCode) (fun h => by cases h)
    | _ => cases hw
  | publishing artifactId =>
    cases o with
    | done voiced =>
      simp only [Worker.renderStep, hactive] at hw
      split at hw
      · rename_i line active hline
        obtain ⟨rfl, hheard, hagrees'⟩ := hear_progress hagrees hprepared hline
        split at hw
        · rename_i line' active' hline'
          cases hw
          obtain ⟨rfl, hheard'⟩ := hear_succeed hagrees' hline'
          have hall : ∃ h', h.hearAll [line, line'] = some h' ∧ h'.terminal = true := by
            rw [Heard.hearAll_cons, hheard]
            exact ⟨_, hearAll_single hheard', rfl⟩
          obtain ⟨h', hall, hterminal⟩ := hall
          exact ends_advances (List.cons_ne_nil _ _) hall hterminal hthreads hasked hloop hstaged
            htimer hcancels
        · rename_i hno
          rw [← hagrees.jobId] at hno
          have hyes := hno.symm.trans (succeed_job
            (a := { a with phase := some .publishing, progressPerMille := (1000 : Nat) })
            (hagrees.operation.trans hop) rfl rfl)
          cases hyes
      · cases hw
        exact hgoes (.failing .renderFailed) (fun h => by cases h)
    | _ => cases hw
  | cancelling =>
    cases o with
    | done voiced =>
      obtain ⟨hr, hheard⟩ := hear_cancelled hagrees hop (hat rfl)
      simp only [Worker.renderStep, hactive, hr, Worker.produce] at hw
      cases hw
      exact hends hheard
    | _ => cases hw
  | failing failureCode =>
    cases o with
    | done voiced =>
      obtain ⟨hr, hheard⟩ := hear_fail failureCode hagrees hop
      simp only [Worker.renderStep, hactive, hr, Worker.produce] at hw
      cases hw
      exact hends hheard
    | _ => cases hw

end Render

section SmartEdit
variable {a : ActiveJob} {pc : SmartEditPc} {task : Option Task} {W₁ : Worker}

/-- Giving a staged job up changes only what becomes of its directory. -/
theorem abandon_eq (W : Worker) (job : Staged) (removed : Bool) :
    ∃ pending finalized log, W.abandon job removed =
      { W with smartCleanupPending := pending, finalized := finalized, log := log } := by
  unfold Worker.abandon
  split
  · exact ⟨_, _, _, rfl⟩
  · split
    · rename_i V hsome
      unfold Worker.abortSmartEditJob at hsome
      split at hsome
      · cases hsome
      · cases hsome
        exact ⟨_, _, _, rfl⟩
    · exact ⟨_, _, _, rfl⟩

theorem recover_eq {jobId : Uuid4} (job : Staged) (removed : Bool)
    (hstaged : ∀ staged, W.smartStaged = some staged → staged.jobId = jobId) :
    ∃ pending finalized log, W.recover jobId job removed =
      { W with
        smartCommitTimer := none, smartStaged := none, smartCleanupPending := pending
        finalized := finalized, log := log } := by
  unfold Worker.recover
  dsimp only
  split
  · rename_i published hsome
    obtain ⟨pending, finalized, log, heq⟩ := abandon_eq { W with smartCommitTimer := none }
      published removed
    rw [if_pos (hstaged _ hsome), heq]
    exact ⟨_, _, _, rfl⟩
  · rename_i hnone
    obtain ⟨pending, finalized, log, heq⟩ := abandon_eq { W with smartCommitTimer := none } job
      removed
    rw [heq]
    exact ⟨pending, finalized, log, by rw [hnone]⟩

/-- The smart edit thread goes on. -/
theorem generates_advances {a' : ActiveJob} {h' : Heard} {p : SmartEditPc} {l : List Line}
    (hop : h.operation = .smartEdit) (hheard : h.hearAll l = some h') (hagrees : Agrees h' a')
    (hactive : W₁.active = some (.job a')) (hcancelling : a'.cancelling = a.cancelling)
    (hfinalizing : a'.finalizing = none) (hthreads : W.threads = [⟨h.number, [], task⟩])
    (hrest : SameRest W W₁) (hsink : W₁.sink = W.sink) (hstdin : W₁.stdin = W.stdin)
    (hat : SmartEditing W₁ h' a' p) (hasked : Cancels W a) (hloop : W.loopOut = [])
    (htimer : W₁.smartCommitTimer = none) (hcancels : Cancellations h W.stdin)
    (hprepared : h'.prepared = none) :
    Advances W (W₁.settle 0 ⟨h.number, l, some (.smartEdit h.jobId p)⟩) h := by
  obtain ⟨hop', hjob', hnumber', hasks'⟩ := Heard.hearAll_same hheard
  have hone : W₁.threads = [⟨h.number, [], task⟩] := hrest.threads.trans hthreads
  have hloop' : W₁.loopOut = [] := hrest.loopOut.trans hloop
  refine ⟨l, h', hheard, ?_, .generating (a := a') (l := l) (p := p) (hop'.trans hop)
    hactive hagrees ?_ ?_ ⟨fun p hp => ?_, fun hp => ?_⟩ hfinalizing hloop' htimer (fun c hc => ?_)
    hprepared⟩
  · rw [flight_settle hone hloop', flight_one hthreads hloop, numbered_nil, List.append_nil, hsink]
  · rw [settle_threads hone, if_neg (fun h => nomatch h.2), hnumber', hjob']
  · cases p <;> exact hat
  · rw [hcancelling]
    exact hasked.command p (hrest.command ▸ hp)
  · rw [hcancelling]
    exact hasked.requested (hrest.cancelRequested ▸ hp)
  · rw [hasks']
    exact hcancels c (hstdin ▸ hc)

/-- The staged job is published, and its line produced. -/
theorem publishes_advances {job : Staged} (hop : h.operation = .smartEdit) (hagrees : Agrees h a)
    (hheard : h.hear (.smartEditPrepared h.jobId job.resultDigest) =
      some { h with prepared := some job.resultDigest })
    (hcancelling : a.cancelling = false) (hfinalizing : a.finalizing = none)
    (hjob : job.jobId = h.jobId) (hnumber : job.number = h.number)
    (hthreads : W.threads = [⟨h.number, [], task⟩]) (hasked : Cancels W a) (hloop : W.loopOut = [])
    (hcancels : Cancellations h W.stdin) :
    Advances W (({ W with
      smartStaged := some job
      active := some (.job { a with resultDigest := some job.resultDigest, awaitingCommit := true })
      smartCommitTimer := some h.jobId } : Worker).settle 0
        ⟨h.number, [.smartEditPrepared h.jobId job.resultDigest], none⟩) h := by
  have hcommand : W.command = none := by
    cases hc : W.command with
    | none => rfl
    | some p =>
      have := (hasked.command p hc).2
      rw [hcancelling] at this
      cases this
  refine ⟨[.smartEditPrepared h.jobId job.resultDigest], _, hearAll_single hheard, ?_,
    .awaiting (a := { a with resultDigest := some job.resultDigest, awaitingCommit := true })
      (s := job) hop rfl ⟨hagrees.operation, hagrees.jobId, hagrees.last, hagrees.cancelling,
        hagrees.live⟩ (.inl ⟨.smartEditPrepared h.jobId job.resultDigest, ?_⟩) rfl rfl hcancelling
      hfinalizing rfl hjob hnumber rfl hcommand hloop hcancels (fun d hd => Option.some.inj hd)⟩
  · simp [flight, Worker.settle, hthreads, hloop]
  · simp [Worker.settle, hthreads]

theorem generate_advances {o : Outcome} {t₁ : Thread} (hop : h.operation = .smartEdit)
    (hactive : W.active = some (.job a)) (hagrees : Agrees h a)
    (hthreads : W.threads = [⟨h.number, [], some (.smartEdit h.jobId pc)⟩])
    (hat : SmartEditing W h a pc) (hasked : Cancels W a) (hfinalizing : a.finalizing = none)
    (hloop : W.loopOut = []) (htimer : W.smartCommitTimer = none)
    (hcancels : Cancellations h W.stdin) (hprepared : h.prepared = none)
    (hw : W.smartEditStep ⟨h.number, [], some (.smartEdit h.jobId pc)⟩ h.jobId pc o =
      some (W₁, t₁)) : Advances W (W₁.settle 0 t₁) h := by
  have hgoes (V : Worker) (pc' : SmartEditPc) (hrest : SameRest W V) (hsink : V.sink = W.sink)
      (hstdin : V.stdin = W.stdin) (hactive' : V.active = some (.job a))
      (htimer' : V.smartCommitTimer = none) (hat' : SmartEditing V h a pc') :
      Advances W (V.settle 0 ⟨h.number, [], some (.smartEdit h.jobId pc')⟩) h :=
    generates_advances (a := a) hop rfl hagrees hactive' rfl hfinalizing hthreads hrest hsink
      hstdin hat' hasked hloop htimer' hcancels hprepared
  have hstays (pc' : SmartEditPc) (hat' : SmartEditing W h a pc') :
      Advances W (W.settle 0 ⟨h.number, [], some (.smartEdit h.jobId pc')⟩) h :=
    hgoes W pc' (.refl W) rfl rfl hactive htimer hat'
  have hends {line : Line} (hstaged : W.smartStaged = none)
      (hline : h.hear line = some { h with terminal := true }) :
      Advances W (({ W with active := none } : Worker).settle 0 ⟨h.number, [line], none⟩) h :=
    ends_advances (List.cons_ne_nil _ _) (hearAll_single hline) rfl hthreads hasked hloop hstaged
      htimer hcancels
  cases pc with
  | generating stage =>
    obtain ⟨hawaiting, hstaged⟩ := hat
    cases o with
    | done voiced =>
      simp only [Worker.smartEditStep, hactive, Worker.produce, Option.some.injEq] at hw
      split at hw
      · rename_i line active hline
        cases hw
        obtain ⟨rfl, hheard, hagrees'⟩ := hear_smartEditProgress hagrees hprepared hline
        refine generates_advances (a := a) hop (hearAll_single hheard) hagrees' rfl rfl hfinalizing
          hthreads ⟨rfl, rfl, rfl, rfl, rfl⟩ rfl rfl ?_ hasked hloop htimer hcancels hprepared
        cases stage.next voiced <;> exact ⟨hawaiting, hstaged⟩
      · cases hw
        exact hstays (.rejected none .upstreamRejected) hstaged
    | cancelled =>
      simp only [Worker.smartEditStep] at hw
      split at hw
      · rename_i hrequested
        cases hw
        exact hstays (.cancelling none) ⟨hawaiting, hstaged, hasked.requested hrequested.1⟩
      · cases hw
    | smartEditRejected failureCode =>
      cases hw
      exact hstays (.rejected none failureCode) hstaged
    | _ => cases hw
  | writing =>
    obtain ⟨hawaiting, hstaged⟩ := hat
    cases o with
    | staged resultDigest =>
      cases hw
      exact hgoes _ (.prepared _) ⟨rfl, rfl, rfl, rfl, rfl⟩ rfl rfl hactive htimer
        ⟨hawaiting, hstaged, rfl, rfl⟩
    | smartEditRejected failureCode =>
      cases hw
      exact hstays (.rejected none failureCode) hstaged
    | _ => cases hw
  | prepared job =>
    obtain ⟨hawaiting, hstaged, hnumber, hjob⟩ := hat
    cases o with
    | done voiced =>
      simp only [Worker.smartEditStep] at hw
      cases hw
      by_cases hrequested : W.cancelRequested = true
      · rw [if_pos hrequested]
        exact hstays (.aborting job) ⟨hawaiting, hstaged, hasked.requested hrequested⟩
      · rw [if_neg hrequested]
        exact hstays (.publishing job) ⟨hawaiting, hstaged, hnumber, hjob⟩
    | _ => cases hw
  | aborting job =>
    obtain ⟨hawaiting, hstaged, hcancelling⟩ := hat
    cases o with
    | removes removed =>
      simp only [Worker.smartEditStep, Worker.abortSmartEditJob] at hw
      split at hw
      · rename_i V hsome
        split at hsome
        · cases hsome
        · cases hsome
          cases hw
          exact hgoes _ (.cancelling (some job)) ⟨rfl, rfl, rfl, rfl, rfl⟩ rfl rfl hactive htimer
            ⟨hawaiting, hstaged, hcancelling⟩
      · cases hw
        exact hstays (.rejected (some job) _) hstaged
    | _ => cases hw
  | cancelling prepared =>
    obtain ⟨hawaiting, hstaged, hcancelling⟩ := hat
    cases o with
    | done voiced =>
      obtain ⟨hr, hheard⟩ := hear_smartEditCancelled hagrees hop hcancelling hawaiting hprepared
      simp only [Worker.smartEditStep, hactive, hr, Worker.produce] at hw
      cases hw
      exact hends hstaged hheard
    | _ => cases hw
  | publishing job =>
    obtain ⟨hawaiting, hstaged, hnumber, hjob⟩ := hat
    cases o with
    | starts started =>
      have hown : ∀ staged, some job = some staged → staged.jobId = h.jobId := by
        intro staged hsome
        cases hsome
        exact hjob
      simp only [Worker.smartEditStep, Worker.publishStaged, hstaged, ne_eq, not_true_eq_false,
        if_false, hactive, Option.some.injEq] at hw
      split at hw
      · cases hw
        exact hgoes _ (.recovering job) ⟨rfl, rfl, rfl, rfl, rfl⟩ rfl rfl rfl htimer hown
      · rename_i line active hline
        obtain ⟨rfl, hcancelling, rfl, hheard⟩ := hear_prepared hagrees hprepared hline
        split at hw
        · cases hw
          exact publishes_advances hop hagrees hheard hcancelling hfinalizing hjob hnumber hthreads
            hasked hloop hcancels
        · cases hw
          have hagrees' : Agrees h
              { a with resultDigest := some job.resultDigest, awaitingCommit := true } :=
            ⟨hagrees.operation, hagrees.jobId, hagrees.last, hagrees.cancelling, hagrees.live⟩
          exact generates_advances (a := a) (p := .recovering job) hop rfl hagrees' rfl
            rfl hfinalizing hthreads ⟨rfl, rfl, rfl, rfl, rfl⟩ rfl rfl hown hasked hloop htimer
            hcancels hprepared
    | _ => cases hw
  | rejected prepared failureCode =>
    cases o with
    | removes removed =>
      cases hw
      cases prepared with
      | none => exact hstays (.failing failureCode) hat
      | some job =>
        obtain ⟨pending, finalized, log, hsome⟩ := abandon_eq W job removed
        show Advances W ((W.abandon job removed).settle 0 _) h
        rw [hsome]
        exact hgoes _ (.failing failureCode) ⟨rfl, rfl, rfl, rfl, rfl⟩ rfl rfl hactive htimer hat
    | _ => cases hw
  | recovering job =>
    cases o with
    | removes removed =>
      cases hw
      obtain ⟨pending, finalized, log, hsome⟩ := recover_eq job removed hat
      rw [hsome]
      exact hgoes _ (.failing .localFailed) ⟨rfl, rfl, rfl, rfl, rfl⟩ rfl rfl hactive rfl rfl
    | _ => cases hw
  | failing failureCode =>
    cases o with
    | done voiced =>
      obtain ⟨hr, hheard⟩ := hear_smartEditFailed failureCode hagrees hop
      simp only [Worker.smartEditStep, hactive, hr, Worker.produce] at hw
      cases hw
      exact hends hat hheard
    | _ => cases hw

end SmartEdit

theorem thread_advances (hs : Stand W h) {i : Nat} {o : Outcome}
    (hw : W.act (.thread i o) = some W') : Advances W W' h := by
  simp only [Worker.act] at hw
  split at hw
  rotate_left
  · cases hw
  rename_i t hi
  obtain ⟨⟨W₁, t₁⟩, hstep, rfl⟩ := Option.map_eq_some_iff.1 hw
  have hout := threadStep_out hstep
  cases hs with
  | sent hquiet =>
    rw [hquiet.threads] at hi
    cases hi
  | starting _ _ _ hnone =>
    rw [hnone] at hi
    cases hi
  | rendering hop hactive hagrees hthreads hat hasked hloop hstaged htimer hcancels hprepared =>
    obtain ⟨rfl, rfl⟩ := only_thread hthreads hi
    cases hout
    exact render_advances hop hactive hagrees hthreads hat hasked hloop hstaged htimer hcancels
      hprepared hstep
  | generating hop hactive hagrees hthreads hat hasked hfin hloop htimer hcancels hprepared =>
    obtain ⟨rfl, rfl⟩ := only_thread hthreads hi
    cases hout
    exact generate_advances hop hactive hagrees hthreads hat hasked hfin hloop htimer hcancels
      hprepared hstep
  | awaiting hop hactive hagrees hthreads =>
    rcases hthreads with ⟨line, hone⟩ | hnone
    · obtain ⟨rfl, rfl⟩ := only_thread hone hi
      cases hout
    · rw [hnone] at hi
      cases hi
  | ended hactive hc hthreads =>
    rcases hthreads with ⟨out, hlines, hone⟩ | hnone
    · obtain ⟨rfl, rfl⟩ := only_thread hone hi
      exact absurd hout hlines
    · rw [hnone] at hi
      cases hi

/-! ## The commit timer -/

/-- The timer fires when all that the worker produced has been printed. -/
theorem expire_advances (hs : Stand W h) {removed : Bool}
    (hw : W.act (.expire removed) = some W') (hnone : W.threads = []) : Advances W W' h := by
  simp only [Worker.act, Worker.expireSmartEdit] at hw
  split at hw
  · cases hw
  rename_i jobId htimer
  cases hs with
  | sent hquiet =>
    rw [hquiet.timer] at htimer
    cases htimer
  | starting _ _ _ _ _ _ hno =>
    rw [hno] at htimer
    cases htimer
  | rendering _ _ _ _ _ _ _ _ hno =>
    rw [hno] at htimer
    cases htimer
  | generating _ _ _ _ _ _ _ _ hno =>
    rw [hno] at htimer
    cases htimer
  | ended _ _ _ _ _ hno =>
    rw [hno] at htimer
    cases htimer
  | @awaiting a job hop hactive hagrees hthreads hawaiting hdigest hcancelling hfin hstaged hjob
      hnumber htimer' hc hloop hcancels hprepared =>
    rw [htimer'] at htimer
    cases htimer
    obtain ⟨hr, hheard⟩ := hear_smartEditFailed .commitFailed hagrees hop
    simp only [hstaged, hjob, ne_eq, not_true_eq_false, if_false, Option.some.injEq] at hw
    have hover (V : Worker) (hV : V.active = none ∧ V.command = none ∧ V.loopOut = [] ∧
        V.smartStaged = none ∧ V.smartCommitTimer = none ∧ V.stdin = W.stdin ∧ V.sink = W.sink ∧
        V.threads = [⟨h.number, [.smartEditFailed h.jobId .commitFailed], none⟩]) :
        Advances W V h := by
      obtain ⟨h1, h2, h3, h4, h5, h6, h7, h8⟩ := hV
      refine ⟨_, _, hearAll_single hheard, ?_, .ended h1 (fun p hp => ?_)
        (.inl ⟨_, List.cons_ne_nil _ _, h8⟩) h3 h4 h5 (fun c hc => ?_) rfl⟩
      · rw [flight_one h8 h3, flight_none hnone hloop, h7]
      · rw [h2] at hp
        cases hp
      · exact hcancels c (h6 ▸ hc)
    subst hw
    apply hover
    unfold Worker.abortSmartEditJob
    split
    · rename_i V hsome
      split at hsome
      · cases hsome
      · cases hsome
        simp [Worker.report, Worker.finalize, hactive, hr, hc, hloop, hnone, hnumber]
    · simp [Worker.report, hactive, hr, hc, hloop, hnone, hnumber]

/-! ## Any step of the worker -/

theorem loopPrint_stand (hs : Stand W h) : W.act .loopPrint = none := by
  have hloop : W.loopOut = [] := by
    cases hs with
    | sent hquiet => exact hquiet.loopOut
    | starting _ _ _ _ hloop => exact hloop
    | rendering _ _ _ _ _ _ hloop => exact hloop
    | generating _ _ _ _ _ _ _ hloop => exact hloop
    | awaiting _ _ _ _ _ _ _ _ _ _ _ _ _ hloop => exact hloop
    | ended _ _ _ hloop => exact hloop
  simp [Worker.act, hloop]

theorem act_advances (hs : Stand W h) {act : Act} (hw : W.act act = some W')
    (htake : act = .take → ∀ j rest, W.stdin = .cancel j :: rest → W.active ≠ none)
    (hexpire : ∀ removed, act = .expire removed → W.threads = []) : Advances W W' h := by
  cases act with
  | take => exact take_advances hs hw (htake rfl)
  | dispatch committed removed => exact dispatch_advances hs hw
  | loopPrint =>
    rw [loopPrint_stand hs] at hw
    cases hw
  | thread i o => exact thread_advances hs hw
  | print i => exact print_advances hs hw
  | expire removed => exact expire_advances hs hw (hexpire removed rfl)

/-! ## What the host does -/

/-- What the host reads is not the worker's standing. -/
theorem Stand.receive (hs : Stand W h) (sink : List (Nat × Line)) :
    Stand { W with sink := sink } h := by
  cases hs with
  | sent hquiet hin haccepts hcancels hnumber hlast hprepared hlive =>
    exact .sent ⟨hquiet.active, hquiet.command, hquiet.loopOut, hquiet.threads, hquiet.staged,
      hquiet.timer⟩ hin haccepts hcancels hnumber hlast hprepared hlive
  | starting hc hbegun hactive hthreads hloop hstaged htimer hcancels hlast hprepared hlive =>
    exact .starting hc hbegun hactive hthreads hloop hstaged htimer hcancels hlast hprepared hlive
  | rendering hop hactive hagrees hthreads hat hasked hloop hstaged htimer hcancels hprepared =>
    exact .rendering hop hactive hagrees hthreads hat ⟨hasked.command, hasked.requested⟩ hloop
      hstaged htimer hcancels hprepared
  | @generating a out pc hop hactive hagrees hthreads hat hasked hfin hloop htimer hcancels
      hprepared =>
    refine .generating hop hactive hagrees hthreads ?_ ⟨hasked.command, hasked.requested⟩ hfin
      hloop htimer hcancels hprepared
    cases pc <;> exact hat
  | awaiting hop hactive hagrees hthreads hawaiting hdigest hcancelling hfin hstaged hjob hnumber
      htimer hc hloop hcancels hprepared =>
    exact .awaiting hop hactive hagrees hthreads hawaiting hdigest hcancelling hfin hstaged hjob
      hnumber htimer hc hloop hcancels hprepared
  | ended hactive hc hthreads hloop hstaged htimer hcancels hterminal =>
    exact .ended hactive hc hthreads hloop hstaged htimer hcancels hterminal

/-- The host requests the cancellation of the job. -/
theorem Stand.cancel (hs : Stand W h) (j : Uuid4) :
    Stand (W.send (.cancel j)) { h with cancelling := true } := by
  have hmore {commands : List Command} (hcancels : Cancellations h commands) :
      Cancellations { h with cancelling := true } (commands ++ [.cancel j]) := by
    intro c hc
    rcases List.mem_append.1 hc with hc | hc
    · exact ⟨(hcancels c hc).1, rfl⟩
    · exact ⟨⟨j, List.mem_singleton.1 hc⟩, rfl⟩
  have hagree {a : ActiveJob} (hagrees : Agrees h a) : Agrees { h with cancelling := true } a :=
    ⟨hagrees.operation, hagrees.jobId, hagrees.last, fun _ => rfl, hagrees.live⟩
  cases hs with
  | @sent start cancels hquiet hin haccepts hcancels hnumber hlast hprepared hlive =>
    refine .sent ⟨hquiet.active, hquiet.command, hquiet.loopOut, hquiet.threads, hquiet.staged,
      hquiet.timer⟩ (l := cancels ++ [.cancel j]) ?_ haccepts (hmore hcancels) hnumber hlast
      hprepared hlive
    simp [Worker.send, hin]
  | starting hc hbegun hactive hthreads hloop hstaged htimer hcancels hlast hprepared hlive =>
    exact .starting hc hbegun hactive hthreads hloop hstaged htimer (hmore hcancels) hlast hprepared
      hlive
  | rendering hop hactive hagrees hthreads hat hasked hloop hstaged htimer hcancels hprepared =>
    exact .rendering hop hactive (hagree hagrees) hthreads hat
      ⟨hasked.command, hasked.requested⟩ hloop hstaged htimer (hmore hcancels) hprepared
  | @generating a out pc hop hactive hagrees hthreads hat hasked hfin hloop htimer hcancels
      hprepared =>
    refine .generating hop hactive (hagree hagrees) hthreads ?_
      ⟨hasked.command, hasked.requested⟩ hfin hloop htimer (hmore hcancels) hprepared
    cases pc <;> exact hat
  | awaiting hop hactive hagrees hthreads hawaiting hdigest hcancelling hfin hstaged hjob hnumber
      htimer hc hloop hcancels hprepared =>
    exact .awaiting hop hactive (hagree hagrees) hthreads hawaiting hdigest hcancelling hfin hstaged
      hjob hnumber htimer hc hloop (hmore hcancels) hprepared
  | ended hactive hc hthreads hloop hstaged htimer hcancels hterminal =>
    exact .ended hactive hc hthreads hloop hstaged htimer (hmore hcancels) hterminal

/-- The host did not accept the result that was announced to it. -/
theorem Stand.forget (hs : Stand W h) : Stand W { h with prepared := none } := by
  have hagree {a : ActiveJob} (hagrees : Agrees h a) : Agrees { h with prepared := none } a :=
    ⟨hagrees.operation, hagrees.jobId, hagrees.last, hagrees.cancelling, hagrees.live⟩
  cases hs with
  | sent hquiet hin haccepts hcancels hnumber hlast hprepared hlive =>
    exact .sent hquiet hin haccepts hcancels hnumber hlast rfl hlive
  | starting hc hbegun hactive hthreads hloop hstaged htimer hcancels hlast hprepared hlive =>
    exact .starting hc hbegun hactive hthreads hloop hstaged htimer hcancels hlast rfl hlive
  | rendering hop hactive hagrees hthreads hat hasked hloop hstaged htimer hcancels hprepared =>
    exact .rendering hop hactive (hagree hagrees) hthreads hat hasked hloop hstaged htimer hcancels
      rfl
  | @generating a out pc hop hactive hagrees hthreads hat hasked hfin hloop htimer hcancels
      hprepared =>
    refine .generating hop hactive (hagree hagrees) hthreads ?_ hasked hfin hloop htimer hcancels
      rfl
    cases pc <;> exact hat
  | awaiting hop hactive hagrees hthreads hawaiting hdigest hcancelling hfin hstaged hjob hnumber
      htimer hc hloop hcancels hprepared =>
    exact .awaiting hop hactive (hagree hagrees) hthreads hawaiting hdigest hcancelling hfin hstaged
      hjob hnumber htimer hc hloop hcancels (fun d hd => nomatch hd)
  | ended hactive hc hthreads hloop hstaged htimer hcancels hterminal =>
    exact .ended hactive hc hthreads hloop hstaged htimer hcancels hterminal

/-- The job is over and all of it has been read. -/
theorem Stand.finished (hs : Stand W h) (hterminal : h.terminal = true) (hflight : flight W = []) :
    Quiet W ∧ W.sink = [] ∧ ∀ c ∈ W.stdin, ∃ j, c = .cancel j := by
  cases hs with
  | sent _ _ _ _ _ _ _ hlive =>
    rw [hterminal] at hlive
    cases hlive
  | starting _ _ _ _ _ _ _ _ _ _ hlive =>
    rw [hterminal] at hlive
    cases hlive
  | rendering _ _ hagrees =>
    rw [hagrees.live] at hterminal
    cases hterminal
  | generating _ _ hagrees =>
    rw [hagrees.live] at hterminal
    cases hterminal
  | awaiting _ _ hagrees =>
    rw [hagrees.live] at hterminal
    cases hterminal
  | ended hactive hc hthreads hloop hstaged htimer hcancels _ =>
    rcases hthreads with ⟨out, hout, hone⟩ | hnone
    · rw [flight_one hone hloop] at hflight
      simp only [List.append_eq_nil_iff, numbered, List.map_eq_nil_iff] at hflight
      exact absurd hflight.2 hout
    · rw [flight_none hnone hloop] at hflight
      exact ⟨⟨hactive, hc, hloop, hnone, hstaged, htimer⟩, hflight, fun c hc => (hcancels c hc).1⟩

end Advance

end AutomationTool.Desktop
