import Clickstream.Proofs.Capture.Run
import Clickstream.Proofs.Capture.Postponed

/-
  Secrecy: what a recorder shows does not depend on passwords.
  It does compare them, to tell whether a field changed; so
  other passwords may stand in for them only where different
  ones stay different and no password stays none.

  Key definitions:
    * `Action.disguise`, `Element.disguise`,
      `Event.disguise`, `Command.disguise`
    * `Recorder.disguise`
    * `Element.field`

  Key theorems:
    * `Settings.interpret_disguise`
    * `Recorder.settle_disguise`
    * `Recorder.execute_disguise`
    * `Recorder.answers_disguise`
-/

namespace Clickstream

------------------------------------------------------------
-- Other Passwords
------------------------------------------------------------

/- A value with another text. -/
def Action.Value.mapText
    (f : String → String) :
    Action.Value → Action.Value
  | .text t => .text (f t)
  | value => value

/- An action with another password, if it has one. -/
def Action.disguise
    (f : String → String)
    (a : Action) : Action :=
  { a with
    value :=
      if a.isPassword then a.value.map (Value.mapText f)
      else a.value }

/- An element that holds another text, if it is secret. -/
def Element.disguise
    (f : String → String)
    (isSecret : Bool)
    (e : Element) : Element :=
  { e with
    form :=
      { e.form with
        value :=
          if isSecret then e.form.value.map f
          else e.form.value } }

/-
  An event with another password. Which elements are inputs
  for passwords is seen from their normal form, as the
  recorder sees it.
-/
def Event.disguise
    (f : String → String)
    (event : Event) : Event :=
  event.mapTarget fun e =>
    e.disguise f e.normalise.isPassword

namespace Capture

/- A verdict on an action with another password. -/
def Verdict.disguise
    (f : String → String) : Verdict → Verdict
  | .ignore => .ignore
  | .record action => .record (action.disguise f)
  | .settle key deadline action =>
      .settle key deadline (action.disguise f)

/- A command with another password. -/
def Command.disguise
    (f : String → String) : Command → Command
  | .handle event => .handle (event.disguise f)
  | .append action => .append (action.disguise f)
  | command => command

end Capture

------------------------------------------------------------
-- Elements
------------------------------------------------------------

namespace Element

variable (f : String → String)
variable (e : Element)

/- The field that an element is for the recorder. -/
def field (e : Element) : Capture.Field :=
  ⟨e.locate, e.frames⟩

/- Of what an element holds only the password changes. -/
theorem currentValue?_disguise :
    (e.disguise f e.isPassword).currentValue? =
      if e.isPassword then
        e.currentValue?.map (Action.Value.mapText f)
      else e.currentValue? := by
  cases hPassword : e.isPassword with
  | false => rfl
  | true =>
      have hDisguised :
          (e.disguise f true).isPassword = true :=
        hPassword
      rw [if_pos rfl, currentValue?_of_isPassword hPassword,
        currentValue?_of_isPassword hDisguised]
      unfold formText? disguise
      cases e.form.value <;> rfl

/- Actions change in the password only. -/
theorem action_disguise
    (kind : Action.Kind)
    (timestamp : Nat) :
    (e.disguise f e.isPassword).action kind timestamp =
      (e.action kind timestamp).disguise f := by
  have hValue := e.currentValue?_disguise f
  have hSame :
      (e.disguise f e.isPassword).action kind timestamp =
        { e.action kind timestamp with
          value :=
            (e.disguise f e.isPassword).currentValue? } :=
    rfl
  rw [hSame, hValue, ← e.isPassword_action kind timestamp]
  rfl

/- Another text does not change the normal form. -/
theorem normalise_disguise (isSecret : Bool) :
    (e.disguise f isSecret).normalise =
      e.normalise.disguise f isSecret :=
  rfl

end Element

/- Changes of an element come one after the other. -/
theorem Event.mapTarget_mapTarget
    (g h : Element → Element)
    (event : Event) :
    (event.mapTarget g).mapTarget h =
      event.mapTarget fun e => h (g e) := by
  cases event with
  | mk occurrence timestamp =>
      cases occurrence with
      | scroll target x y => cases target <;> rfl
      | _ => rfl

theorem Event.normalise_disguise
    (f : String → String)
    (event : Event) :
    (event.disguise f).normalise =
      event.normalise.mapTarget fun e =>
        e.disguise f e.isPassword := by
  unfold Event.disguise Event.normalise
  rw [mapTarget_mapTarget, mapTarget_mapTarget]
  simp only [Element.normalise_disguise]

namespace Capture

------------------------------------------------------------
-- Events
------------------------------------------------------------

variable (f : String → String)

theorem Verdict.disguise_ite
    (c : Prop)
    [Decidable c]
    (v w : Verdict) :
    (if c then v else w).disguise f =
      if c then v.disguise f else w.disguise f :=
  apply_ite _ c v w

/- No password is none, so an empty field stays empty. -/
theorem withSomeValue_disguise
    (hEmpty : f "" = "")
    (a : Action) :
    withSomeValue (a.disguise f) =
      (withSomeValue a).disguise f := by
  have hType :
      (withSomeValue a).isPassword = a.isPassword :=
    rfl
  unfold Action.disguise
  rw [hType]
  unfold withSomeValue
  cases hPassword : a.isPassword with
  | false => rfl
  | true =>
      cases a.value with
      | none => simp [Action.Value.mapText, hEmpty]
      | some value => rfl

/- Taking the value away takes the password away. -/
theorem disguise_of_value
    {a : Action}
    (hValue : a.value = none) :
    a.disguise f = a := by
  have hSame :
      (if a.isPassword then
          a.value.map (Action.Value.mapText f)
        else a.value) = a.value := by
    rw [hValue]
    split <;> rfl
  unfold Action.disguise
  rw [hSame]

theorem Verdict.disguise_record
    {a : Action}
    (hValue : a.value = none) :
    (Verdict.record a).disguise f = .record a :=
  congrArg Verdict.record (disguise_of_value f hValue)

theorem Verdict.disguise_settle
    {a : Action}
    (hValue : a.value = none)
    (key : TimerKey)
    (deadline : Nat) :
    (Verdict.settle key deadline a).disguise f =
      .settle key deadline a :=
  congrArg (Verdict.settle key deadline)
    (disguise_of_value f hValue)

theorem interpretClick_disguise
    (e : Element)
    (clicks button timestamp : Nat) :
    interpretClick (e.disguise f e.isPassword) clicks button
        timestamp =
      (interpretClick e clicks button timestamp).disguise
        f := by
  unfold interpretClick
  dsimp only
  rw [Verdict.disguise_ite, Verdict.disguise_ite,
    e.action_disguise f]
  rfl

theorem interpretChange_disguise
    (settings : Settings)
    (hEmpty : f "" = "")
    (e : Element)
    (timestamp : Nat) :
    settings.interpretChange (e.disguise f e.isPassword)
        timestamp =
      (settings.interpretChange e timestamp).disguise f := by
  unfold Settings.interpretChange
  dsimp only
  simp only [Verdict.disguise_ite, e.action_disguise f,
    withSomeValue_disguise f hEmpty]
  rfl

theorem interpretGesture_disguise
    (settings : Settings)
    (hEmpty : f "" = "")
    (gesture : Gesture)
    (e : Element)
    (timestamp : Nat) :
    settings.interpretGesture gesture
        (e.disguise f e.isPassword) timestamp =
      (settings.interpretGesture gesture e
        timestamp).disguise f := by
  cases gesture with
  | contextMenu => exact interpretClick_disguise f e _ _ _
  | input =>
      exact interpretChange_disguise f settings hEmpty e _
  | change =>
      exact interpretChange_disguise f settings hEmpty e _
  | focus =>
      unfold Settings.interpretGesture interpretFocus
      dsimp only
      rw [Verdict.disguise_ite, e.action_disguise f]
      rfl
  | blur =>
      unfold Settings.interpretGesture interpretBlur
      dsimp only
      rw [Verdict.disguise_ite, e.action_disguise f]
      rfl
  | mouseOver =>
      unfold Settings.interpretGesture
        Settings.interpretHover
      dsimp only
      rw [Verdict.disguise_ite, e.action_disguise f]
      rfl
  | submit => exact (Verdict.disguise_record f rfl).symm
  | dragStart => exact (Verdict.disguise_record f rfl).symm
  | drop => exact (Verdict.disguise_record f rfl).symm

theorem interpretKey_disguise
    (e : Element)
    (key : String)
    (modifiers : Modifiers)
    (timestamp : Nat) :
    interpretKey (e.disguise f e.isPassword) key modifiers
        timestamp =
      (interpretKey e key modifiers timestamp).disguise
        f := by
  unfold interpretKey
  dsimp only
  rw [Verdict.disguise_ite, Verdict.disguise_record f rfl]
  rfl

theorem interpretScroll_disguise
    (settings : Settings)
    (target : Option Element)
    (x y : Int)
    (timestamp : Nat) :
    settings.interpretScroll
        (target.map fun e => e.disguise f e.isPassword)
        x y timestamp =
      (settings.interpretScroll target x y
        timestamp).disguise f := by
  have hDraft :
      scrollDraft
          (target.map fun e => e.disguise f e.isPassword)
          timestamp =
        scrollDraft target timestamp := by
    cases target <;> rfl
  have hValue :
      ({ scrollDraft target timestamp with
          scrollX := some x
          scrollY := some y } : Action).value = none :=
    value_scrollDraft target timestamp
  unfold Settings.interpretScroll
  rw [hDraft]
  exact (Verdict.disguise_settle f hValue _ _).symm

/- An event means the same with another password. -/
theorem Settings.interpret_mapTarget
    (settings : Settings)
    (hEmpty : f "" = "")
    (location : Option String)
    (event : Event) :
    settings.interpret location
        (event.mapTarget fun e =>
          e.disguise f e.isPassword) =
      (settings.interpret location event).disguise f := by
  cases event with
  | mk occurrence timestamp =>
      cases occurrence with
      | gesture gesture e =>
          exact interpretGesture_disguise f settings hEmpty
            gesture e timestamp
      | click e clicks button =>
          exact interpretClick_disguise f e clicks button
            timestamp
      | keyDown e key modifiers =>
          exact interpretKey_disguise f e key modifiers
            timestamp
      | scroll target x y =>
          exact interpretScroll_disguise f settings target x y
            timestamp
      | mutation address =>
          unfold Settings.interpret
          refine Eq.trans ?_
            (Verdict.disguise_ite f _ _ _).symm
          rfl
      | unload address => rfl

theorem Settings.interpret_disguise
    (settings : Settings)
    (hEmpty : f "" = "")
    (location : Option String)
    (event : Event) :
    settings.interpret location (event.disguise f).normalise =
      (settings.interpret location
        event.normalise).disguise f := by
  rw [event.normalise_disguise f]
  exact settings.interpret_mapTarget f hEmpty location _

------------------------------------------------------------
-- Recorders
------------------------------------------------------------

/- Sanitising makes all passwords alike. -/
theorem Settings.sanitiseValue_mapText
    (settings : Settings)
    (upload : Bool)
    (value : Action.Value) :
    settings.sanitiseValue true upload (value.mapText f) =
      settings.sanitiseValue true upload value := by
  cases value with
  | text t =>
      unfold Action.Value.mapText Settings.sanitiseValue
      dsimp only
      rw [if_pos rfl, if_pos rfl]
  | list items => rfl
  | flag on => rfl

theorem Settings.sanitise_disguise
    (settings : Settings)
    (a : Action) :
    settings.sanitise (a.disguise f) =
      settings.sanitise a := by
  have hValue :
      (a.disguise f).value.map
          (settings.sanitiseValue a.isPassword
            (a.kind = .upload)) =
        a.value.map
          (settings.sanitiseValue a.isPassword
            (a.kind = .upload)) := by
    unfold Action.disguise
    dsimp only
    cases a.isPassword with
    | false => rw [if_neg Bool.false_ne_true]
    | true =>
        rw [if_pos rfl, Option.map_map]
        apply congrArg (fun g => a.value.map g)
        funext value
        exact settings.sanitiseValue_mapText f _ value
  exact congrArg
    (fun value => { settings.sanitise a with value := value })
    hValue

/- The text that is typed, with another password. -/
theorem valueText_disguise
    (hEmpty : f "" = "")
    (action : Action) :
    (action.disguise f).valueText?.getD "" =
      if action.isPassword then
        f (action.valueText?.getD "")
      else action.valueText?.getD "" := by
  unfold Action.valueText? Action.disguise
  cases action.isPassword with
  | false => rfl
  | true =>
      cases action.value with
      | none => exact hEmpty.symm
      | some value =>
          cases value with
          | text t => rfl
          | list items => exact hEmpty.symm
          | flag on => exact hEmpty.symm

variable (secret : Field → Bool)

/- What a field holds, with another password. -/
def disguiseEntry
    (entry : Field × String) : Field × String :=
  (entry.1, if secret entry.1 then f entry.2 else entry.2)

/-
  A recorder that was given other passwords. They are in what
  waits and in what secret fields held last.
-/
def Recorder.disguise (r : Recorder) : Recorder :=
  { r with
    timers := r.timers.mapValues (Action.disguise f)
    lastValues := r.lastValues.map (disguiseEntry f secret) }

/-
  What ties waiting actions to fields: typing waits under a
  secret field just if it is about a password.
-/
def IsTypedIn (key : TimerKey) (action : Action) : Prop :=
  ∀ field, key = .typing field →
    action.isPassword = secret field

namespace Recorder

variable (r : Recorder)

/- What a secret field held last is disguised too. -/
theorem lastValue?_disguise (field : Field) :
    (r.disguise f secret).lastValue? field =
      (r.lastValue? field).map
        (if secret field then f else id) := by
  unfold lastValue? disguise
  dsimp only
  induction r.lastValues with
  | nil => rfl
  | cons entry entries ih =>
      rw [List.map_cons, List.find?_cons, List.find?_cons]
      by_cases hField : entry.1 = field
      · have hEntry :
            (disguiseEntry f secret entry).1 = field :=
          hField
        rw [decide_eq_true hField, decide_eq_true hEntry]
        subst hField
        unfold disguiseEntry
        cases secret entry.1 <;> rfl
      · have hEntry :
            ¬ (disguiseEntry f secret entry).1 = field :=
          hField
        rw [decide_eq_false hField, decide_eq_false hEntry]
        exact ih

/- Remembering another password is remembering elsewhere. -/
theorem rememberValue_disguise
    (field : Field)
    (value : String) :
    (r.disguise f secret).rememberValue field
        (if secret field then f value else value) =
      (r.rememberValue field value).disguise f secret := by
  unfold rememberValue disguise
  dsimp only
  rw [List.map_cons, List.filter_map]
  rfl

theorem accepts_disguise (action : Action) :
    (r.disguise f secret).Accepts (action.disguise f) ↔
      r.Accepts action :=
  Iff.rfl

/- Only the address of a navigation is followed. -/
theorem follow_disguise (action : Action) :
    (r.disguise f secret).follow (action.disguise f) =
      (r.follow action).disguise f secret := by
  have hKind :
      (action.disguise f).isNavigation =
        action.isNavigation :=
    rfl
  unfold follow
  rw [hKind]
  split <;> rfl

/- Recording does not look at passwords. -/
theorem record_disguise (action : Action) :
    (r.disguise f secret).record (action.disguise f) =
      ((r.record action).1.disguise f secret,
        (r.record action).2) := by
  have hSame := r.accepts_disguise f secret action
  have hSettings :
      (r.disguise f secret).settings = r.settings :=
    rfl
  by_cases hAccepts : r.Accepts action
  · rw [record_of_accepts (hSame.mpr hAccepts),
      record_of_accepts hAccepts, hSettings,
      r.settings.sanitise_disguise f,
      r.follow_disguise f secret]
    rfl
  · rw [record_of_not_accepts (mt hSame.mp hAccepts),
      record_of_not_accepts hAccepts]

variable {f}
variable {secret}
variable {key : TimerKey}
variable {action : Action}

/-
  Typing is news just if it would be with another password:
  it is compared with the password that the field held, and
  different passwords stay different.
-/
theorem isNews_disguise
    (hInjective : Function.Injective f)
    (hEmpty : f "" = "")
    (hTyped : IsTypedIn secret key action) :
    (r.disguise f secret).IsNews key (action.disguise f) ↔
      r.IsNews key action := by
  cases key with
  | hover => exact Iff.rfl
  | scroll => exact Iff.rfl
  | typing field =>
      have hSecret := hTyped field rfl
      unfold IsNews
      dsimp only
      rw [r.lastValue?_disguise f secret,
        valueText_disguise f hEmpty, hSecret]
      apply not_congr
      cases secret field with
      | false => simp
      | true =>
          have hSame :=
            (Option.map_injective hInjective).eq_iff
              (a := r.lastValue? field)
              (b := some (action.valueText?.getD ""))
          exact hSame

theorem settles_disguise
    (hInjective : Function.Injective f)
    (hEmpty : f "" = "")
    (hTyped : IsTypedIn secret key action) :
    (r.disguise f secret).Settles key (action.disguise f) ↔
      r.Settles key action := by
  have hNews := r.isNews_disguise hInjective hEmpty hTyped
  have hAccepts := r.accepts_disguise f secret action
  constructor
  · intro hSettles
    exact ⟨hSettles.phase, hNews.mp hSettles.isNews,
      hAccepts.mp hSettles.accepts⟩
  · intro hSettles
    exact ⟨hSettles.phase, hNews.mpr hSettles.isNews,
      hAccepts.mpr hSettles.accepts⟩

theorem remember_disguise
    (hEmpty : f "" = "")
    (hTyped : IsTypedIn secret key action) :
    (r.disguise f secret).remember key (action.disguise f) =
      (r.remember key action).disguise f secret := by
  cases key with
  | hover => rfl
  | scroll => rfl
  | typing field =>
      have hSecret := hTyped field rfl
      unfold remember
      dsimp only
      rw [valueText_disguise f hEmpty, hSecret]
      exact r.rememberValue_disguise f secret field _

/- Settling does not tell passwords apart. -/
theorem settle_disguise
    (hInjective : Function.Injective f)
    (hEmpty : f "" = "")
    (hTyped : IsTypedIn secret key action) :
    (r.disguise f secret).settle key (action.disguise f) =
      ((r.settle key action).1.disguise f secret,
        (r.settle key action).2) := by
  have hSame := r.settles_disguise hInjective hEmpty hTyped
  by_cases hSettles : r.Settles key action
  · have hSettings :
        (r.disguise f secret).settings = r.settings :=
      rfl
    rw [settle_of_settles (hSame.mpr hSettles),
      settle_of_settles hSettles, r.record_disguise,
      remember_disguise _ hEmpty hTyped, hSettings,
      r.settings.sanitise_disguise]
  · rw [settle_of_not_settles (mt hSame.mp hSettles),
      settle_of_not_settles hSettles]

theorem settleAll_disguise
    (hInjective : Function.Injective f)
    (hEmpty : f "" = "")
    {entries : List (TimerKey × Action)}
    (hTyped :
      ∀ entry ∈ entries, IsTypedIn secret entry.1 entry.2) :
    (r.disguise f secret).settleAll
        (entries.map fun entry =>
          (entry.1, entry.2.disguise f)) =
      ((r.settleAll entries).1.disguise f secret,
        (r.settleAll entries).2) := by
  induction entries generalizing r with
  | nil => rfl
  | cons entry entries ih =>
      have hFirst := hTyped entry (by simp)
      have hOthers :
          ∀ other ∈ entries,
            IsTypedIn secret other.1 other.2 :=
        fun other hOther => hTyped other (by simp [hOther])
      rw [List.map_cons, settleAll_cons,
        r.settle_disguise hInjective hEmpty hFirst,
        ih _ hOthers, settleAll_cons]

/- Whether typing waits under the right fields. -/
def IsTidy (secret : Field → Bool) (r : Recorder) : Prop :=
  r.Waits (IsTypedIn secret)

theorem poll_disguise
    (hInjective : Function.Injective f)
    (hEmpty : f "" = "")
    (hTidy : r.IsTidy secret)
    (now : Nat) :
    (r.disguise f secret).poll now =
      ((r.poll now).1.disguise f secret,
        (r.poll now).2) := by
  have hDue :
      ∀ entry ∈ (r.timers.takeDue now).2,
        IsTypedIn secret entry.1 entry.2 := by
    intro entry hEntry
    rcases Timers.exists_of_mem_takeDue hEntry with
      ⟨p, hp, rfl⟩
    exact hTidy p hp
  have hSettle :=
    settleAll_disguise
      { r with timers := r.timers.later now } hInjective
      hEmpty hDue
  rw [poll_eq, poll_eq, ← hSettle]
  unfold disguise
  dsimp only
  rw [Timers.takeDue_mapValues, Timers.later_mapValues]

theorem flush_disguise
    (hInjective : Function.Injective f)
    (hEmpty : f "" = "")
    (hTidy : r.IsTidy secret) :
    (r.disguise f secret).flush =
      (r.flush.1.disguise f secret, r.flush.2) := by
  have hDrained :
      ∀ entry ∈ r.timers.drain.2,
        IsTypedIn secret entry.1 entry.2 := by
    intro entry hEntry
    rcases Timers.exists_of_mem_drain hEntry with
      ⟨p, hp, rfl⟩
    exact hTidy p hp
  have hSettle :=
    settleAll_disguise { r with timers := r.timers.clear }
      hInjective hEmpty hDrained
  rw [flush_eq, flush_eq, ← hSettle]
  unfold disguise
  dsimp only
  rw [Timers.drain_mapValues, Timers.clear_mapValues]

theorem recordInOrder_disguise
    (hInjective : Function.Injective f)
    (hEmpty : f "" = "")
    (hTidy : r.IsTidy secret)
    (action : Action) :
    (r.disguise f secret).recordInOrder (action.disguise f) =
      ((r.recordInOrder action).1.disguise f secret,
        (r.recordInOrder action).2) := by
  rw [recordInOrder_eq, recordInOrder_eq,
    r.flush_disguise hInjective hEmpty hTidy,
    r.flush.1.record_disguise]

------------------------------------------------------------
-- Runs
------------------------------------------------------------

theorem observe_disguise (event : Event) :
    (r.disguise f secret).observe (event.disguise f).normalise =
      (r.observe event.normalise).disguise f secret := by
  rw [event.normalise_disguise f]
  unfold observe Event.mapTarget
  cases event.normalise.occurrence <;> rfl

/- A recorder reacts alike to events with other passwords. -/
theorem react_disguise
    (hInjective : Function.Injective f)
    (hEmpty : f "" = "")
    (hTidy : r.IsTidy secret)
    (event : Event) :
    (r.disguise f secret).react (event.disguise f).normalise =
      ((r.react event.normalise).1.disguise f secret,
        (r.react event.normalise).2) := by
  have hVerdict :=
    r.settings.interpret_disguise f hEmpty r.location event
  have hSame :
      (r.disguise f secret).settings.interpret
          (r.disguise f secret).location
          (event.disguise f).normalise =
        r.settings.interpret r.location
          (event.disguise f).normalise :=
    rfl
  unfold react
  rw [hSame, hVerdict]
  cases r.settings.interpret r.location event.normalise with
  | ignore => rfl
  | settle key deadline action =>
      dsimp only [Verdict.disguise, disguise]
      rw [Timers.schedule_mapValues]
  | record action =>
      have hObserved :
          (r.observe event.normalise).IsTidy secret :=
        Waits.of_keeps hTidy (r.keeps_observe _)
      dsimp only [Verdict.disguise]
      rw [observe_disguise]
      exact recordInOrder_disguise _ hInjective hEmpty
        hObserved action

/- A command does the same with another password. -/
theorem execute_disguise
    (hInjective : Function.Injective f)
    (hEmpty : f "" = "")
    (hTidy : r.IsTidy secret)
    (command : Command) :
    (r.disguise f secret).execute (command.disguise f) =
      ((r.execute command).1.disguise f secret,
        (r.execute command).2) := by
  have hPhase :
      (r.disguise f secret).phase = r.phase :=
    rfl
  cases command with
  | start address now =>
      cases address with
      | none => rfl
      | some url =>
          have hNavigate :
              (Action.navigate url none now).disguise f =
                Action.navigate url none now :=
            disguise_of_value f rfl
          have hRecord :=
            (r.begun (some url)).record_disguise f secret
              (Action.navigate url none now)
          rw [hNavigate] at hRecord
          dsimp only [Command.disguise]
          rw [execute_start_some, execute_start_some]
          have hBegun :
              (r.disguise f secret).begun (some url) =
                (r.begun (some url)).disguise f secret :=
            rfl
          rw [hBegun, hRecord]
  | stop => rfl
  | poll now =>
      have hPoll :=
        r.poll_disguise hInjective hEmpty hTidy now
      unfold execute Command.disguise
      dsimp only
      rw [hPoll]
  | flush =>
      have hFlush := r.flush_disguise hInjective hEmpty hTidy
      unfold execute Command.disguise
      dsimp only
      rw [hFlush]
  | append action =>
      dsimp only [Command.disguise]
      cases hOld : r.phase with
      | idle =>
          rw [execute_append_of_idle (hPhase.trans hOld),
            execute_append_of_idle hOld]
      | recording =>
          rw [execute_append_of_recording
              (hPhase.trans hOld),
            execute_append_of_recording hOld,
            r.recordInOrder_disguise hInjective hEmpty hTidy]
  | handle event =>
      have hPoll :=
        r.poll_disguise hInjective hEmpty hTidy
          event.timestamp
      have hTime :
          (event.disguise f).timestamp = event.timestamp :=
        rfl
      dsimp only [Command.disguise]
      cases hOld : r.phase with
      | idle =>
          rw [execute_handle_of_idle (hPhase.trans hOld),
            execute_handle_of_idle hOld, hTime, hPoll]
      | recording =>
          have hPolled :
              (r.poll event.timestamp).1.IsTidy secret :=
            Waits.poll hTidy event.timestamp
          rw [execute_handle_of_recording
              (hPhase.trans hOld),
            execute_handle_of_recording hOld, hTime, hPoll,
            react_disguise _ hInjective hEmpty hPolled]

/- A run shows the same with other passwords. -/
theorem answers_disguise_of_schedules
    (hInjective : Function.Injective f)
    (hEmpty : f "" = "")
    (hTidy : r.IsTidy secret)
    {commands : List Command}
    (hCommands :
      ∀ command ∈ commands,
        command.Schedules r.settings (IsTypedIn secret)) :
    (r.disguise f secret).answers
        (commands.map (Command.disguise f)) =
      r.answers commands := by
  induction commands generalizing r with
  | nil => rfl
  | cons command commands ih =>
      have hExecute :=
        r.execute_disguise hInjective hEmpty hTidy command
      have hNext : (r.execute command).1.IsTidy secret :=
        Waits.execute hTidy (hCommands command (by simp))
      have hOthers :
          ∀ other ∈ commands,
            other.Schedules (r.execute command).1.settings
              (IsTypedIn secret) := by
        intro other hOther
        rw [settings_execute]
        exact hCommands other (by simp [hOther])
      have hAnswer :
          (r.disguise f secret).answer (command.disguise f) =
            r.answer command := by
        unfold answer
        rw [hExecute]
        dsimp only [disguise]
        rw [Timers.size_mapValues,
          Timers.nextDeadline?_mapValues]
      rw [List.map_cons, answers, answers, hAnswer, hExecute,
        ih _ hNext hOthers]

end Recorder

------------------------------------------------------------
-- Secret Fields
------------------------------------------------------------

/- The element of a command in normal form, if it has one. -/
def Command.target? : Command → Option Element
  | .handle event => event.normalise.target?
  | _ => none

/- The elements that something happens to in a run. -/
def targets (commands : List Command) : List Element :=
  commands.filterMap Command.target?

/- Typing waits under the field of the element typed into. -/
theorem exists_of_interpret_eq_settle
    {settings : Settings}
    {location : Option String}
    {event : Event}
    {field : Field}
    {deadline : Nat}
    {action : Action}
    (hVerdict :
      settings.interpret location event =
        .settle (.typing field) deadline action) :
    ∃ e,
      event.target? = some e ∧ e.isTextEntry = true ∧
        e.field = field ∧
          action.isPassword = e.isPassword := by
  cases Settings.interpret_eq_settle_iff.mp hVerdict with
  | @typed gesture e time hGesture hOverlay hEntry =>
      exact ⟨e, rfl, hEntry, rfl, e.isPassword_action .type time⟩

/- Whether one of these elements takes passwords in a field. -/
def isSecretAmong
    (elements : List Element)
    (field : Field) : Bool :=
  elements.any fun e => e.isPassword && e.field = field

/-
  What a run shows does not depend on its passwords, provided
  that no field takes passwords at one time and other texts at
  another.
-/
theorem Recorder.answers_disguise
    (settings : Settings)
    (f : String → String)
    (commands : List Command)
    (hInjective : Function.Injective f)
    (hEmpty : f "" = "")
    (hApart :
      ∀ e ∈ targets commands, ∀ other ∈ targets commands,
        e.isPassword = true → other.isTextEntry = true →
          other.isPassword = false → e.field ≠ other.field) :
    (new settings).answers
        (commands.map (Command.disguise f)) =
      (new settings).answers commands := by
  have hCommands :
      ∀ command ∈ commands,
        command.Schedules settings
          (IsTypedIn (isSecretAmong (targets commands))) := by
    intro command hCommand
    cases command with
    | handle event =>
        intro location key deadline action hVerdict field hKey
        subst hKey
        rcases exists_of_interpret_eq_settle hVerdict with
          ⟨e, hTarget, hEntry, hField, hPassword⟩
        have he : e ∈ targets commands :=
          List.mem_filterMap.mpr ⟨_, hCommand, hTarget⟩
        rw [hPassword, ← hField]
        cases hSecret : e.isPassword with
        | true =>
            refine (List.any_eq_true.mpr ⟨e, he, ?_⟩).symm
            simp [hSecret]
        | false =>
            refine (List.any_eq_false.mpr ?_).symm
            intro other hOther hSame
            simp only [Bool.and_eq_true,
              decide_eq_true_eq] at hSame
            exact hApart other hOther e he hSame.1 hEntry
              hSecret hSame.2
    | _ => trivial
  exact
    answers_disguise_of_schedules (new settings) hInjective
      hEmpty (waits_new settings) hCommands

/- A password is typed into an input. -/
def typedPassword (password : String) : Command :=
  .handle
    { occurrence :=
        .gesture .change
          { tagName := "input"
            attributes :=
              Attributes.ofList [("type", "password")]
            form := { value := some password } }
      timestamp := 10 }

/- A password that is read backwards shows the same. -/
theorem answers_backward_password :
    (Recorder.new {}).answers
        [.start none 0, typedPassword "drowssap", .flush] =
      (Recorder.new {}).answers
        [.start none 0, typedPassword "password", .flush] := by
  have hInjective :
      Function.Injective
        (fun s : String => String.ofList s.toList.reverse) := by
    intro a b hSame
    have hChars := String.ofList_injective hSame
    exact String.toList_inj.mp (List.reverse_inj.mp hChars)
  refine
    Recorder.answers_disguise {}
      (fun s => String.ofList s.toList.reverse)
      [.start none 0, typedPassword "password", .flush]
      hInjective rfl ?_
  intro e he other hOther hPassword _ hNone
  rw [List.mem_singleton.mp he] at hPassword
  rw [List.mem_singleton.mp hOther, hPassword] at hNone
  cases hNone

end Capture

end Clickstream
