import Mathlib
import ChangeFilter.Log

/-! # Steps of a log, and groups written one at a time

    A computation changes its log by steps: lines written, groups opened and
    frames left. `LogStep.applyAll` applies a list of them in order.

    The groups of such steps are written one at a time when the steps pass
    `Alternates false`, a machine with one bit that says whether a group of
    the steps is open: an opening needs the bit clear and sets it, a closing
    needs it set and clears it, lines leave it alone, and it is clear at the
    end. Such steps are `OneGroupAtATime` (`Alternates.oneGroupAtATime`): their
    group markers are an opening and a closing, repeated; every group opens
    with the frames the log began with, so inside no other group of the
    steps; the frames the log began with are in force again at the end; and
    the lines appended are those of the steps in order, `::group::title` for
    an opening and `::endgroup::` for a closing in a workflow log.

    `LogsBy logOf P x` says that every run of `x` changes the log by steps
    of kind `P`. It follows the computation: one rule per construct (`pure`,
    `throw`, `bind`, `tryCatch`, `forIn`), and `LogsBy.grouped` turns a body
    that only writes lines into one group. -/

namespace ChangeFilter

/-- One change a computation makes to its log. -/
inductive LogStep where
  /-- A message at a level, with the call's pairs. -/
  | write (level : Level) (msg : String) (extra : Context)
  /-- A group opens under a title. -/
  | openGroup (title : String)
  /-- The innermost frame is left. -/
  | leave

namespace LogStep

/-- Applies a step to a log. -/
def apply : LogStep → Log → Log
  | .write level msg extra, log => log.write level msg extra
  | .openGroup title, log => log.openGroup title
  | .leave, log => log.leave

/-- Applies steps in order. -/
def applyAll (steps : List LogStep) (log : Log) : Log :=
  steps.foldl (fun log st => st.apply log) log

@[simp] theorem applyAll_nil (log : Log) : applyAll [] log = log := rfl

@[simp] theorem applyAll_cons (st : LogStep) (steps : List LogStep) (log : Log) :
    applyAll (st :: steps) log = applyAll steps (st.apply log) := rfl

theorem applyAll_append (xs ys : List LogStep) (log : Log) :
    applyAll (xs ++ ys) log = applyAll ys (applyAll xs log) :=
  List.foldl_append

/-- Whether a step only writes a line. -/
def isWrite : LogStep → Bool
  | .write .. => true
  | _ => false

/-- The group marker of a step: `true` for an opening, `false` for a closing. -/
def marker : LogStep → Option Bool
  | .write .. => none
  | .openGroup _ => some true
  | .leave => some false

end LogStep

open LogStep

/-! ## What one step does to a log -/

namespace Log

@[simp] theorem frames_write (log : Log) (level : Level) (msg : String) (extra : Context) :
    (log.write level msg extra).frames = log.frames := by
  unfold write; split <;> rfl

@[simp] theorem threshold_write (log : Log) (level : Level) (msg : String) (extra : Context) :
    (log.write level msg extra).threshold = log.threshold := by
  unfold write; split <;> rfl

@[simp] theorem workflow_write (log : Log) (level : Level) (msg : String) (extra : Context) :
    (log.write level msg extra).workflow = log.workflow := by
  unfold write; split <;> rfl

theorem lines_write (log : Log) (level : Level) (msg : String) (extra : Context) :
    (log.write level msg extra).lines.toList = log.lines.toList ++
      if log.enabled level then [level.name ++ ": " ++ Context.attach msg (log.context.merge extra)]
      else [] := by
  unfold write; split <;> simp [push]

/-- Which lines are enabled depends on the threshold alone. -/
theorem enabled_congr {log log' : Log} (h : log.threshold = log'.threshold) :
    log.enabled = log'.enabled := by
  funext level
  unfold enabled enabledRank effective
  rw [h]

/-- The context depends on the frames alone. -/
theorem context_congr {log log' : Log} (h : log.frames = log'.frames) :
    log.context = log'.context := by
  simp [context, h]

/-- A group adds nothing to the context. -/
theorem context_group {log : Log} {title : String} {rest : List Frame}
    (h : log.frames = .group title :: rest) :
    log.context = ({ log with frames := rest } : Log).context := by
  simp [context, h, List.foldl_append]

/-- The lines a step writes in a log with the threshold, workflow mode and
    context of `log`, a closing closing a group: a message when its level is
    enabled, a group's title at `INFO` (as `::group::title` in a workflow
    log), and `::endgroup::` at `INFO` in a workflow log. -/
def linesOf (log : Log) : LogStep → List String
  | .write level msg extra =>
    if log.enabled level then [level.name ++ ": " ++ Context.attach msg (log.context.merge extra)]
    else []
  | .openGroup title =>
    if log.enabled .info then
      [Level.info.name ++ ": " ++
        Context.attach (if log.workflow then "::group::" ++ title else title) (log.context.merge [])]
    else []
  | .leave =>
    if log.workflow && log.enabled .info then
      [Level.info.name ++ ": " ++ Context.attach "::endgroup::" (log.context.merge [])]
    else []

/-- `log` carries on from `log₀`: the same threshold and workflow mode, and
    the frames of `log₀`, under one group when `inside` holds. -/
def Within (log₀ : Log) (inside : Bool) (log : Log) : Prop :=
  log.threshold = log₀.threshold ∧ log.workflow = log₀.workflow ∧
    if inside then ∃ title, log.frames = .group title :: log₀.frames else log.frames = log₀.frames

theorem within_self (log : Log) : log.Within false log :=
  ⟨rfl, rfl, rfl⟩

section Within

variable {log₀ log : Log} {inside : Bool}

theorem Within.context (h : log₀.Within inside log) : log.context = log₀.context := by
  obtain ⟨-, -, hf⟩ := h
  cases inside with
  | false => exact context_congr hf
  | true =>
    obtain ⟨title, hf⟩ := hf
    exact (context_group hf).trans (context_congr rfl)

theorem Within.linesOf (h : log₀.Within inside log) : log.linesOf = log₀.linesOf := by
  have hen := enabled_congr h.1
  funext st
  cases st <;> simp [Log.linesOf, hen, h.2.1, h.context]

theorem Within.write (h : log₀.Within inside log) (level : Level) (msg : String)
    (extra : Context) : log₀.Within inside (log.write level msg extra) := by
  simpa [Within] using h

theorem Within.openGroup (h : log₀.Within false log) (title : String) :
    log₀.Within true (log.openGroup title) := by
  obtain ⟨ht, hw, hf⟩ := h
  exact ⟨by simpa [Log.openGroup] using ht, by simpa [Log.openGroup] using hw,
    title, by simpa [Log.openGroup] using hf⟩

theorem Within.leave (h : log₀.Within true log) : log₀.Within false log.leave := by
  obtain ⟨ht, hw, title, hf⟩ := h
  unfold Log.leave
  rw [hf]
  dsimp only
  split <;> exact ⟨by simpa using ht, by simpa using hw, by simp⟩

end Within

end Log

/-! ## Groups one at a time -/

/-- Steps that only write lines. -/
def Plain (steps : List LogStep) : Prop :=
  ∀ st ∈ steps, st.isWrite = true

theorem plain_nil : Plain [] := by
  simp [Plain]

theorem plain_write (level : Level) (msg : String) (extra : Context) :
    Plain [.write level msg extra] := by
  simp [Plain, isWrite]

theorem Plain.append {xs ys : List LogStep} (hx : Plain xs) (hy : Plain ys) : Plain (xs ++ ys) := by
  intro st hst
  rcases List.mem_append.1 hst with h | h
  · exact hx st h
  · exact hy st h

/-- Steps whose groups open one at a time, read as a machine whose bit
    `inside` says a group of the steps is open: an opening needs the bit clear
    and sets it, a closing needs it set and clears it, lines leave it alone,
    and it is clear at the end. -/
def Alternates : Bool → List LogStep → Prop
  | inside, [] => inside = false
  | inside, .write .. :: rest => Alternates inside rest
  | inside, .openGroup _ :: rest => inside = false ∧ Alternates true rest
  | inside, .leave :: rest => inside = true ∧ Alternates false rest

theorem Alternates.append {xs ys : List LogStep} (hy : Alternates false ys) {inside : Bool}
    (hx : Alternates inside xs) : Alternates inside (xs ++ ys) := by
  induction xs generalizing inside with
  | nil =>
    simp only [Alternates] at hx
    subst hx
    exact hy
  | cons st xs ih =>
    cases st with
    | write level msg extra => exact ih hx
    | openGroup title => exact ⟨hx.1, ih hx.2⟩
    | leave => exact ⟨hx.1, ih hx.2⟩

/-- Lines in front of steps leave the machine's verdict as it was. -/
theorem Plain.alternates_append {body : List LogStep} (hb : Plain body) (rest : List LogStep)
    (inside : Bool) : Alternates inside (body ++ rest) ↔ Alternates inside rest := by
  induction body with
  | nil => rfl
  | cons st body ih =>
    have hbody : Plain body := fun s hs => hb s (List.mem_cons_of_mem _ hs)
    cases st with
    | write level msg extra => exact ih hbody
    | openGroup title => simp [Plain, isWrite] at hb
    | leave => simp [Plain, isWrite] at hb

theorem Plain.alternates {steps : List LogStep} (h : Plain steps) : Alternates false steps := by
  simpa [Alternates] using (h.alternates_append [] false).2

/-- A group around lines. -/
theorem alternates_group (title : String) {body : List LogStep} (hb : Plain body) :
    Alternates false (.openGroup title :: (body ++ [.leave])) :=
  ⟨rfl, (hb.alternates_append _ true).2 ⟨rfl, rfl⟩⟩

/-- The group markers of steps the machine accepts are an opening and a
    closing, repeated; from inside a group, a closing comes first. -/
theorem Alternates.markers {inside : Bool} {steps : List LogStep} (h : Alternates inside steps) :
    ∃ n, steps.filterMap marker =
      (if inside then [false] else []) ++ (List.replicate n [true, false]).flatten := by
  induction steps generalizing inside with
  | nil =>
    simp only [Alternates] at h
    exact ⟨0, by simp [h]⟩
  | cons st rest ih =>
    cases st with
    | write level msg extra => simpa only [List.filterMap_cons, marker] using ih h
    | openGroup title =>
      obtain ⟨rfl, h⟩ := h
      obtain ⟨n, hn⟩ := ih h
      exact ⟨n + 1, by simp [marker, hn, List.replicate_succ]⟩
    | leave =>
      obtain ⟨rfl, h⟩ := h
      obtain ⟨n, hn⟩ := ih h
      exact ⟨n, by simp [marker, hn]⟩

/-- The step lemma: a step the machine allows keeps the log carrying on from
    `log₀` and appends the lines of the step. -/
theorem Alternates.step {log₀ log : Log} {inside : Bool} {st : LogStep} {rest : List LogStep}
    (ha : Alternates inside (st :: rest)) (hw : log₀.Within inside log) :
    ∃ inside', Alternates inside' rest ∧ log₀.Within inside' (st.apply log) ∧
      (st.apply log).lines.toList = log.lines.toList ++ log₀.linesOf st := by
  rw [← hw.linesOf]
  cases st with
  | write level msg extra =>
    exact ⟨inside, ha, hw.write level msg extra, Log.lines_write log level msg extra⟩
  | openGroup title =>
    obtain ⟨rfl, ha⟩ := ha
    refine ⟨true, ha, hw.openGroup title, ?_⟩
    simp [apply, Log.openGroup, Log.lines_write, Log.linesOf]
  | leave =>
    obtain ⟨rfl, ha⟩ := ha
    refine ⟨false, ha, hw.leave, ?_⟩
    obtain ⟨-, -, title, hf⟩ := hw
    -- the group's frame is dropped; what is left has the log's context
    let closed : Log := { log with frames := log₀.frames }
    have hctx : closed.context = log.context := (Log.context_group hf).symm
    have hen : closed.enabled = log.enabled := Log.enabled_congr rfl
    have hleave : log.leave = if log.workflow then closed.write .info "::endgroup::" [] else closed := by
      simp only [Log.leave, hf]
      rfl
    show log.leave.lines.toList = _
    rw [hleave]
    by_cases hwf : log.workflow = true
    · rw [if_pos hwf, Log.lines_write, hen, hctx]
      simp [Log.linesOf, hwf, closed]
    · rw [if_neg hwf]
      simp [Log.linesOf, hwf, closed]

/-- The run lemma: steps in front of `rest` keep the log carrying on from
    `log₀`, with the machine in the state `rest` starts from, and append
    their lines in order. -/
theorem Alternates.prefix {log₀ : Log} :
    ∀ {pre rest : List LogStep} {inside : Bool} {log : Log},
      Alternates inside (pre ++ rest) → log₀.Within inside log →
        ∃ inside', Alternates inside' rest ∧ log₀.Within inside' (applyAll pre log) ∧
          (applyAll pre log).lines.toList = log.lines.toList ++ pre.flatMap log₀.linesOf
  | [], _, inside, _, ha, hw => ⟨inside, ha, hw, by simp⟩
  | st :: pre, _, _, _, ha, hw => by
    obtain ⟨inside', ha', hw', hl⟩ := Alternates.step ha hw
    obtain ⟨inside'', ha'', hw'', hl'⟩ := Alternates.prefix ha' hw'
    exact ⟨inside'', ha'', hw'', by simp [hl', hl]⟩

/-! ## What steps that alternate write -/

/-- Log steps that write their groups one at a time. -/
structure OneGroupAtATime (steps : List LogStep) : Prop where
  /-- The group markers are an opening and a closing, repeated. -/
  markers : ∃ n, steps.filterMap marker = (List.replicate n [true, false]).flatten
  /-- Every group opens with the frames the log began with, so inside no
      other group of the steps. -/
  unnested : ∀ pre title post, steps = pre ++ .openGroup title :: post →
    ∀ log, (applyAll pre log).frames = log.frames
  /-- The frames the log began with are in force at the end: no group is
      left open. -/
  closed : ∀ log, (applyAll steps log).frames = log.frames
  /-- The lines appended are those of the steps, in order. -/
  lines : ∀ log, (applyAll steps log).lines.toList = log.lines.toList ++ steps.flatMap log.linesOf

/-- Steps the machine accepts write their groups one at a time. -/
theorem Alternates.oneGroupAtATime {steps : List LogStep} (h : Alternates false steps) :
    OneGroupAtATime steps := by
  -- the whole of the steps is a prefix, in front of no steps
  have hwhole : Alternates false (steps ++ []) := by simpa using h
  refine ⟨by simpa using h.markers, ?_, ?_, ?_⟩
  · intro pre title post hs log
    subst hs
    obtain ⟨inside, ha, ⟨-, -, hf⟩, -⟩ := Alternates.prefix h (Log.within_self log)
    obtain ⟨rfl, -⟩ := ha
    exact hf
  · intro log
    obtain ⟨inside, ha, ⟨-, -, hf⟩, -⟩ := Alternates.prefix hwhole (Log.within_self log)
    simp only [Alternates] at ha
    subst ha
    exact hf
  · intro log
    obtain ⟨-, -, -, hl⟩ := Alternates.prefix hwhole (Log.within_self log)
    exact hl

/-! ## Runs that change the log by steps -/

/-- A kind of steps that holds of no steps and of steps one after another. -/
structure StepsClosed (P : List LogStep → Prop) : Prop where
  nil : P []
  append : ∀ {xs ys}, P xs → P ys → P (xs ++ ys)

theorem plain_closed : StepsClosed Plain :=
  ⟨plain_nil, Plain.append⟩

theorem alternates_closed : StepsClosed (Alternates false) :=
  ⟨rfl, fun hx hy => Alternates.append hy hx⟩

section Runs

variable {σ ε α β : Type}

private theorem steps_id_bind (x : Id α) (f : α → Id β) : x >>= f = f x :=
  rfl

private theorem steps_id_pure (a : α) : (Pure.pure a : Id α) = a :=
  rfl

private theorem steps_id_map (f : α → β) (x : Id α) : f <$> x = f x :=
  rfl

/-- Every run of `x`, from any state, changes the log that `logOf` reads off
    the state by steps of kind `P`. -/
def LogsBy (logOf : σ → Log) (P : List LogStep → Prop) (x : ExceptT ε (StateM σ) α) : Prop :=
  ∀ st, ∃ steps, P steps ∧ logOf (x.run.run st).2 = applyAll steps (logOf st)

/-- `updateLog` changes the log that `logOf` reads by the function given, and
    gives back nothing. -/
def UpdatesLog (ε : Type) (logOf : σ → Log) [MonadLog (ExceptT ε (StateM σ))] : Prop :=
  ∀ (f : Log → Log) st, ∃ st', (MonadLog.updateLog f : ExceptT ε (StateM σ) Unit).run.run st =
    (.ok (), st') ∧ logOf st' = f (logOf st)

variable {logOf : σ → Log} {P Q : List LogStep → Prop}

theorem LogsBy.mono (himp : ∀ steps, P steps → Q steps) {x : ExceptT ε (StateM σ) α}
    (h : LogsBy logOf P x) : LogsBy logOf Q x := by
  intro st
  obtain ⟨steps, hp, hlog⟩ := h st
  exact ⟨steps, himp steps hp, hlog⟩

/-- Lines alone write no group. -/
theorem LogsBy.alternates {x : ExceptT ε (StateM σ) α} (h : LogsBy logOf Plain x) :
    LogsBy logOf (Alternates false) x :=
  h.mono fun _ hp => hp.alternates

theorem LogsBy.pure (hP : StepsClosed P) (a : α) :
    LogsBy logOf P (Pure.pure a : ExceptT ε (StateM σ) α) :=
  fun _ => ⟨[], hP.nil, rfl⟩

theorem LogsBy.throw (hP : StepsClosed P) (e : ε) :
    LogsBy logOf P (MonadExcept.throw e : ExceptT ε (StateM σ) α) :=
  fun _ => ⟨[], hP.nil, rfl⟩

theorem LogsBy.bind (hP : StepsClosed P) {x : ExceptT ε (StateM σ) α}
    {f : α → ExceptT ε (StateM σ) β} (hx : LogsBy logOf P x) (hf : ∀ a, LogsBy logOf P (f a)) :
    LogsBy logOf P (x >>= f) := by
  intro st
  obtain ⟨xs, hxs, hxlog⟩ := hx st
  simp only [ExceptT.run_bind, StateT.run_bind]
  rcases hrun : x.run.run st with ⟨r, st₁⟩
  rw [hrun] at hxlog
  cases r with
  | ok a =>
    obtain ⟨ys, hys, hylog⟩ := hf a st₁
    refine ⟨xs ++ ys, hP.append hxs hys, ?_⟩
    rw [applyAll_append, ← hxlog, ← hylog]
    rfl
  | error e => exact ⟨xs, hxs, hxlog⟩

theorem LogsBy.tryCatch (hP : StepsClosed P) {x : ExceptT ε (StateM σ) α}
    {handler : ε → ExceptT ε (StateM σ) α} (hx : LogsBy logOf P x)
    (hh : ∀ e, LogsBy logOf P (handler e)) : LogsBy logOf P (tryCatch x handler) := by
  intro st
  obtain ⟨xs, hxs, hxlog⟩ := hx st
  simp only [ExceptT.run_tryCatch, StateT.run_bind]
  rcases hrun : x.run.run st with ⟨r, st₁⟩
  rw [hrun] at hxlog
  cases r with
  | ok a => exact ⟨xs, hxs, hxlog⟩
  | error e =>
    obtain ⟨ys, hys, hylog⟩ := hh e st₁
    refine ⟨xs ++ ys, hP.append hxs hys, ?_⟩
    rw [applyAll_append, ← hxlog, ← hylog]
    rfl

/-- A loop whose every turn changes the log by steps of a closed kind changes
    it by such steps. -/
theorem LogsBy.forIn (hP : StepsClosed P) {γ δ : Type}
    {f : γ → δ → ExceptT ε (StateM σ) (ForInStep δ)} (hf : ∀ x s, LogsBy logOf P (f x s)) :
    ∀ (l : List γ) (s : δ), LogsBy logOf P (forIn l s f)
  | [], s => LogsBy.pure hP s
  | x :: l, s => by
    rw [List.forIn_cons]
    refine (hf x s).bind hP fun r => ?_
    cases r with
    | done b => exact LogsBy.pure hP b
    | yield b => exact LogsBy.forIn hP hf l b

theorem LogsBy.forM (hP : StepsClosed P) {γ : Type} {f : γ → ExceptT ε (StateM σ) Unit}
    (hf : ∀ x, LogsBy logOf P (f x)) : ∀ l : List γ, LogsBy logOf P (l.forM f)
  | [] => LogsBy.pure hP ()
  | x :: l => (hf x).bind hP fun _ => LogsBy.forM hP hf l

variable [MonadLog (ExceptT ε (StateM σ))]

theorem LogsBy.updateLog (hu : UpdatesLog ε logOf) (st : LogStep) (hP : P [st]) :
    LogsBy logOf P (MonadLog.updateLog st.apply : ExceptT ε (StateM σ) Unit) := by
  intro s
  obtain ⟨s', hrun, hlog⟩ := hu st.apply s
  exact ⟨[st], hP, by rw [hrun]; exact hlog⟩

theorem LogsBy.logAt (hu : UpdatesLog ε logOf) (level : Level) (msg : String) (extra : Context) :
    LogsBy logOf Plain (logAt level msg extra : ExceptT ε (StateM σ) Unit) :=
  LogsBy.updateLog hu (.write level msg extra) (plain_write level msg extra)

/-- A group around a body that only writes lines: the group opens, the body
    runs, and the group closes whether the body succeeds or fails. -/
theorem LogsBy.grouped (hu : UpdatesLog ε logOf) (title : String)
    {body : ExceptT ε (StateM σ) α} (hb : LogsBy logOf Plain body) :
    LogsBy logOf (Alternates false) (ChangeFilter.grouped title body) := by
  intro st
  obtain ⟨st₁, hopen, hlog₁⟩ := hu (·.openGroup title) st
  obtain ⟨steps, hplain, hlog₂⟩ := hb st₁
  rcases hbody : body.run.run st₁ with ⟨r, st₂⟩
  rw [hbody] at hlog₂
  obtain ⟨st₃, hleave, hlog₃⟩ := hu Log.leave st₂
  refine ⟨.openGroup title :: (steps ++ [.leave]), alternates_group title hplain, ?_⟩
  have hrun : (ChangeFilter.grouped title body).run.run st = (r, st₃) := by
    cases r <;>
      simp [ChangeFilter.grouped, ExceptT.run_bind, ExceptT.run_tryCatch, StateT.run_bind, hopen,
        hbody, hleave, steps_id_bind, steps_id_pure, steps_id_map, Except.map]
  rw [hrun, hlog₃, hlog₂, hlog₁]
  simp [applyAll_append, apply]

end Runs

end ChangeFilter
