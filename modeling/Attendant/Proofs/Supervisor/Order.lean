import Attendant.Proofs.Supervisor.Errands

/-!
# What a worker is sent, and in which order

A message is on its way when the mailbox of a channel has accepted it. So the question is what has been accepted when,
and by whom it has been handed in; what the worker gets to read are the frames of these messages in this order.

* `InTurn` says what may be accepted after what has happened, and `Run.in_turn` that nothing else ever is, as long as
  the stop of this worker has not been abandoned. The id of the greeting, and of its answer, is known because nobody
  else has taken one before (`Run.taken_unless_ran`).
* `Opened` says what has been sent altogether: the greeting, the confirmation, and then only what may follow them.
-/

namespace Attendant

/-- The caller and the message of a letter, if it is neither a reply nor the end of all messages. -/
def Channel.Letter.sent? : Channel.Letter → Option (Nat × Value)
  | ⟨.caller key, .send message⟩ => some (key, message)
  | _ => none

@[simp] theorem Channel.Letter.sent?_reader (command : Command) : Channel.Letter.sent? ⟨.reader, command⟩ = none := by
  cases command <;> rfl

@[simp] theorem Channel.Letter.sent?_shutdown (sender : Sender) : Channel.Letter.sent? ⟨sender, .shutdown⟩ = none := by
  cases sender <;> rfl

namespace Supervisor

/-- What a worker has been sent, and by which callers, in this order: all but the refusals of what it has asked for. -/
def sent (worker : Nat) (es : List Entry) : List (Nat × Value) :=
  (Channel.letters (on worker es)).filterMap Channel.Letter.sent?

/-- The first message to a worker. -/
def Opens (s : Supervisor) (worker : Nat) (message : Value) : Prop :=
  ∃ launch, s.workers[worker]?.map (·.launch) = some launch ∧
    message = Message.request 1 "initialize"
      (some (Message.handshakeParams s.process (launch.cwd.getD s.options.workspaceRoot)))

/-- The second one. -/
def confirmation : Value := Message.notification "initialized" (some (.table []))

/-- The jobs that come after them: those of users, the wish that the worker stop, and the word that it exit. -/
def ComesLater (job : Job) : Prop := job.guarded = true ∨ job = farewell ∨ job = dismissal

/-- What may be posted on the channel of a worker after what has happened. -/
inductive InTurn (s : Supervisor) (es : List Entry) (worker : Nat) : Channel.Letter → Prop
  | reply (id : Value) (method : String) : InTurn s es worker ⟨.reader, .send (Message.methodNotFound id method)⟩
  | first {message : Value} (ho : Opens s worker message) (hsent : sent worker es = []) :
      InTurn s es worker ⟨.caller 0, .send message⟩
  | second {key : Nat} {stage : Attendant.Stage} {first body v : Value}
      (hkey : s.callerOf? worker key = some ⟨notice, stage⟩) (ho : Opens s worker first)
      (hsent : sent worker es = [(0, first)]) (hbody : (1, body) ∈ Channel.resolved (on worker es))
      (hok : Channel.outcomeOf body = .ok v) : InTurn s es worker ⟨.caller key, .send confirmation⟩
  | later {key told : Nat} {job : Job} {stage : Attendant.Stage} {id : Option Nat} {first : Value}
      (hkey : s.callerOf? worker key = some ⟨job, stage⟩) (hjob : ComesLater job) (hran : Ran es worker)
      (hsent : [(0, first), (told, confirmation)] <+: sent worker es) : InTurn s es worker ⟨.caller key, job.command id⟩
  | close {key : Nat} : InTurn s es worker ⟨.caller key, .shutdown⟩

/-- What a worker has been sent altogether: nothing yet, the greeting, or the greeting and the confirmation, and after
these only what users and a stop have sent, and this only if it has been said to be running. -/
inductive Opened (s : Supervisor) (es : List Entry) (worker : Nat) : List (Nat × Value) → Prop
  | nothing : Opened s es worker []
  | greeted {first : Value} (ho : Opens s worker first) : Opened s es worker [(0, first)]
  | confirmed {first : Value} {told : Nat} {stage : Attendant.Stage} {rest : List (Nat × Value)}
      (ho : Opens s worker first) (htold : s.callerOf? worker told = some ⟨notice, stage⟩)
      (hrest : ∀ p ∈ rest, Ran es worker ∧ ∃ job stage, s.callerOf? worker p.1 = some ⟨job, stage⟩ ∧ ComesLater job) :
      Opened s es worker ((0, first) :: (told, confirmation) :: rest)

section

variable {options : WorkerOptions} {process : Nat} {es : List Entry} {s s' : Supervisor} {now worker key : Nat}
  {label : Label} {c : Channel} {job : Job} {stage : Attendant.Stage}

/-- What has happened before a step has happened in a run, and the step has been made there. -/
theorem Run.split {later earlier : List Entry} {e : Entry} (h : Run options process (later ++ e :: earlier) s) :
    Run options process earlier e.before ∧ e.before.step e.now e.label = some e.after := by
  induction later generalizing s with
  | nil =>
    cases h with
    | move now label hrun hstep => exact ⟨hrun, hstep⟩
  | cons f later ih =>
    cases h with
    | move now label hrun hstep => exact ih hrun

/-! ### Ids -/

/-- On the channel of a worker, too, ids and slots are in order. -/
private theorem Run.ledger (h : Run options process es s) (hc : s.channels[worker]? = some c)
    (hn : (Channel.taken (on worker es)).length < width64) :
    Channel.Sound (Channel.taken (on worker es)) (Channel.resolved (on worker es)) c.ledger := by
  obtain ⟨es', hrun, hagrees⟩ := h.follows.1 c hc
  rw [← hagrees.taken] at hn ⊢
  rw [← hagrees.resolved]
  exact hrun.sound hn

/-- Before a worker has been said to be running, nobody but the greeting is on the way to it with a request. -/
private theorem Crew.eq_zero_of_ask (h : Crew es s worker c) (hheld : s.held? = some worker) (hnot : ¬Ran es worker)
    (hkey : c.callers[key]? = some ⟨job, stage⟩) (hask : job.isAsk = true) (hs : stage.isUnsent = true) : key = 0 := by
  cases hg : job.guarded with
  | true => exact ((h.guests key _ hkey hg hs).elim hnot fun hne => hne hheld).elim
  | false =>
    obtain ⟨launch, -, ⟨-, hzero⟩ | rfl | rfl | rfl | rfl⟩ := h.mem_errands hkey hg
    · exact hzero
    · cases hask
    · exact absurd (h.parted key _ stage hkey (Or.inl rfl)) hnot
    · cases hask
    · cases hask

/-- Nobody but the greeting takes an id before a worker has been said to be running. -/
theorem Run.taken_unless_ran (h : Run options process es s) (hpublic : ∀ e ∈ es, e.label.isPublic = true)
    (hheld : s.held? = some worker) (hnot : ¬Ran es worker) :
    Channel.taken (on worker es) = [] ∨ Channel.taken (on worker es) = [(0, 1)] := by
  induction h with
  | fresh => exact Or.inl rfl
  | @move es s s' now label hrun hstep ih =>
    have hdeed := hrun.deed hstep
    have hpublic' : ∀ e ∈ es, e.label.isPublic = true := fun e he => hpublic e (List.mem_cons_of_mem _ he)
    have hnot' : ¬Ran es worker := fun hran => hnot (hran.cons _)
    rw [on_cons]
    rcases hdeed.on?_cases worker with hnone | ⟨c, m, c', hc, hmake, hon⟩
    · rw [hnone]
      cases hc : s.channels[worker]? with
      | none =>
        rw [hrun.follows.2 hc]
        exact Or.inl rfl
      | some c => exact ih hpublic' (hrun.sound.held hdeed hc hheld) hnot'
    · have hheld₀ := hrun.sound.held hdeed hc hheld
      have htaken := ih hpublic' hheld₀ hnot'
      rw [hon, Option.toList_some, List.singleton_append, Channel.taken_cons]
      cases htook : Channel.Entry.took? ⟨c, m, c'⟩ with
      | none => exact htaken
      | some p =>
        -- whoever takes an id now is the greeting, so nobody has taken one before
        have hfew : (Channel.taken (on worker es)).length + 1 < width64 := by
          rcases htaken with htaken | htaken <;> rw [htaken] <;> decide
        have hledger := hrun.ledger hc (Nat.lt_of_succ_lt hfew)
        obtain ⟨key, id⟩ := p
        obtain ⟨job, hkey, rfl⟩ := Channel.caller_of_took? htook
        obtain ⟨hask, hfresh⟩ := hledger.standing key _ hkey
        obtain rfl := (hrun.crew hpublic' hc).eq_zero_of_ask hheld₀ hnot' hkey hask rfl
        have hnil : Channel.taken (on worker es) = [] := by
          rcases htaken with htaken | htaken
          · exact htaken
          · rw [htaken] at hfresh
            exact absurd List.mem_cons_self hfresh
        rw [hnil] at hledger
        obtain hnext : c.nextId = 1 := hledger.next
        rw [hnil, hnext]
        exact Or.inr rfl

/-- So as long as it has not been, ids and slots are in order, and there is no id but the first one. -/
private theorem Run.ledger_unless_ran (h : Run options process es s) (hpublic : ∀ e ∈ es, e.label.isPublic = true)
    (hheld : s.held? = some worker) (hnot : ¬Ran es worker) (hc : s.channels[worker]? = some c) :
    Channel.Sound (Channel.taken (on worker es)) (Channel.resolved (on worker es)) c.ledger ∧
      ∀ p ∈ Channel.taken (on worker es), p = (0, 1) := by
  rcases h.taken_unless_ran hpublic hheld hnot with htaken | htaken
  · exact ⟨h.ledger hc (by rw [htaken]; decide), by simp [htaken]⟩
  · exact ⟨h.ledger hc (by rw [htaken]; decide), by simp [htaken]⟩

/-! ### Who has sent what -/

private theorem sent_cons (worker : Nat) (e : Entry) (es : List Entry) :
    sent worker (e :: es) = sent worker es ++ (e.mail worker).filterMap Channel.Letter.sent? := by
  rw [sent, letters_on_cons, List.filterMap_append, sent]

private theorem Run.mem_sent (h : Run options process es s) (hc : s.callerOf? worker key = some ⟨job, stage⟩)
    (hs : Caller.hasSent ⟨job, stage⟩ = true) (hjob : job ≠ .finish) : ∃ message, (key, message) ∈ sent worker es := by
  obtain ⟨c, hchannel, hkey⟩ := exists_channel hc
  obtain ⟨es', hrun, hagrees⟩ := h.follows.1 c hchannel
  obtain ⟨command, hl⟩ := hrun.mailed.sent key _ hkey hs
  obtain ⟨job', stage', id, hkey', -, -, rfl⟩ := hrun.mailed.callers key command hl
  rw [hkey] at hkey'
  cases hkey'
  rw [hagrees.letters] at hl
  cases job with
  | ask guarded method params limit => exact ⟨_, List.mem_filterMap.2 ⟨_, hl, rfl⟩⟩
  | tell guarded method params => exact ⟨_, List.mem_filterMap.2 ⟨_, hl, rfl⟩⟩
  | finish => exact absurd rfl hjob

private theorem posted_of_sent {message : Value} (hp : (key, message) ∈ sent worker es) :
    ⟨.caller key, .send message⟩ ∈ Channel.letters (on worker es) := by
  obtain ⟨⟨sender, command⟩, hl, hsent⟩ := List.mem_filterMap.1 hp
  cases sender with
  | reader => simp at hsent
  | caller other =>
    cases command with
    | send _ =>
      cases hsent
      exact hl
    | shutdown => simp at hsent

private theorem Run.not_sent (h : Run options process es s) (hc : s.channels[worker]? = some c)
    (hkey : c.callers[key]? = some ⟨job, stage⟩) (hs : stage.isUnsent = true) (message : Value) :
    (key, message) ∉ sent worker es := by
  intro hp
  rw [h.isUnsent_of_posted (posted_of_sent hp) hc hkey] at hs
  cases hs

/-- A worker that has been said to be running has been sent the greeting and the confirmation. -/
private theorem Opened.of_ran (h : Run options process es s) (hopened : Opened s es worker (sent worker es))
    (hran : Ran es worker) : ∃ first told, [(0, first), (told, confirmation)] <+: sent worker es := by
  obtain ⟨⟨v, launch, -, hzero⟩, told, v', htold⟩ := h.greeted_of_ran hran
  obtain ⟨first, hfirst⟩ := h.mem_sent hzero rfl nofun
  obtain ⟨second, hsecond⟩ := h.mem_sent htold rfl nofun
  generalize sent worker es = messages at hopened hfirst hsecond ⊢
  cases hopened with
  | nothing => cases hfirst
  | greeted _ =>
    -- one caller does not want both
    obtain rfl : told = 0 := congrArg Prod.fst (List.mem_singleton.1 hsecond)
    rw [hzero] at htold
    cases htold
  | confirmed _ _ _ => exact ⟨_, _, List.prefix_append [_, _] _⟩

/-! ### What may be posted -/

private theorem InTurn.of_greeting (h : Run options process es s) (hpublic : ∀ e ∈ es, e.label.isPublic = true)
    (hheld : s.held? = some worker) (hopened : Opened s es worker (sent worker es))
    (hc : s.channels[worker]? = some c) {launch : Launch} (hl : s.workers[worker]?.map (·.launch) = some launch)
    (hkey : c.callers[(0 : Nat)]? = some ⟨s.greeting launch, stage⟩) {id : Option Nat}
    (hs : stage = .submit id ∨ stage = .queued id) :
    InTurn s es worker ⟨.caller 0, (s.greeting launch).command id⟩ := by
  have hunsent : stage.isUnsent = true := by rcases hs with rfl | rfl <;> rfl
  -- nothing has been sent, since the greeting would be the first
  have hnothing : sent worker es = [] := by
    have hzero := h.not_sent hc hkey hunsent
    generalize sent worker es = messages at hopened hzero
    cases hopened with
    | nothing => rfl
    | greeted _ | confirmed _ _ _ => exact absurd List.mem_cons_self (hzero _)
  have hnot : ¬Ran es worker := by
    intro hran
    obtain ⟨first, told, hprefix⟩ := hopened.of_ran h hran
    rw [hnothing] at hprefix
    cases List.prefix_nil.1 hprefix
  -- so the id that the greeting has taken is the first one
  obtain ⟨hledger, hfirst⟩ := h.ledger_unless_ran hpublic hheld hnot hc
  rcases (hledger.standing 0 _ hkey).of_mailbox hs with ⟨n, rfl, -, hid⟩ | ⟨-, hask, -⟩
  · obtain rfl : n = 1 := congrArg Prod.snd (hfirst _ hid)
    exact .first ⟨launch, hl, rfl⟩ hnothing
  · cases hask

private theorem InTurn.of_notice (h : Run options process es s) (hpublic : ∀ e ∈ es, e.label.isPublic = true)
    (hheld : s.held? = some worker) (hopened : Opened s es worker (sent worker es))
    (hc : s.channels[worker]? = some c) (hkey : c.callers[key]? = some ⟨notice, stage⟩)
    (hunsent : stage.isUnsent = true) : InTurn s es worker ⟨.caller key, .send confirmation⟩ := by
  have hcrew := h.crew hpublic hc
  obtain ⟨v, launch, hl, hzero⟩ := hcrew.noticed key stage hkey
  obtain ⟨first, ho, hsent⟩ : ∃ first, Opens s worker first ∧ sent worker es = [(0, first)] := by
    obtain ⟨greeting, hgreeting⟩ := h.mem_sent hzero rfl nofun
    have hself := h.not_sent hc hkey hunsent
    generalize sent worker es = messages at hopened hgreeting hself
    cases hopened with
    | nothing => cases hgreeting
    | greeted ho => exact ⟨_, ho, rfl⟩
    | @confirmed _ told _ _ _ htold _ =>
      rw [callerOf?_eq hc] at htold
      obtain rfl := hcrew.key_eq rfl hkey htold
      exact absurd (List.mem_cons_of_mem _ List.mem_cons_self) (hself _)
  have hnot : ¬Ran es worker := by
    intro hran
    obtain ⟨_, _, hprefix⟩ := hopened.of_ran h hran
    have hle := hprefix.length_le
    rw [hsent] at hle
    simp at hle
  -- the greeting has got its answer, and its id is the first one
  obtain ⟨hledger, hids⟩ := h.ledger_unless_ran hpublic hheld hnot hc
  rw [callerOf?_eq hc] at hzero
  obtain ⟨-, hanswer, -⟩ := hledger.standing 0 _ hzero
  obtain ⟨id, body, hid, hbody, hok⟩ := hanswer rfl rfl
  obtain rfl : id = 1 := congrArg Prod.snd (hids _ hid)
  exact .second (by rw [callerOf?_eq hc, hkey]) ho hsent hbody hok.symm

private theorem Run.in_turn (h : Run options process es s) (hpublic : ∀ e ∈ es, e.label.isPublic = true)
    (hleft : worker ∉ orphans es) (hopened : Opened s es worker (sent worker es)) {letters : List Channel.Letter}
    (hm : Mail s worker letters) : ∀ letter ∈ letters, InTurn s es worker letter := by
  intro letter hletter
  cases hm with
  | silent => cases hletter
  | reply id method =>
    obtain rfl := List.mem_singleton.1 hletter
    exact .reply id method
  | @caller c key job stage id hc hopen hkey hs =>
    obtain rfl := List.mem_singleton.1 hletter
    have hunsent : stage.isUnsent = true := by rcases hs with rfl | rfl <;> rfl
    have hcrew := h.crew hpublic hc
    -- a mailbox that is open is that of a worker which is held
    have hheld : s.held? = some worker := by
      by_contra hheld
      rw [h.mailbox_shut hc hheld hleft] at hopen
      cases hopen
    have hlater (hjob : ComesLater job) (hran : Ran es worker) :
        InTurn s es worker ⟨.caller key, job.command id⟩ := by
      obtain ⟨first, told, hsent⟩ := hopened.of_ran h hran
      exact .later (by rw [callerOf?_eq hc, hkey]) hjob hran hsent
    cases hg : job.guarded with
    | true => exact hlater (Or.inl hg) ((hcrew.guests key _ hkey hg hunsent).resolve_right fun hne => hne hheld)
    | false =>
      obtain ⟨launch, hl, ⟨rfl, rfl⟩ | rfl | rfl | rfl | rfl⟩ := hcrew.mem_errands hkey hg
      · exact .of_greeting h hpublic hheld hopened hc hl hkey hs
      · exact .of_notice h hpublic hheld hopened hc hkey hunsent
      · exact hlater (Or.inr (Or.inl rfl)) (hcrew.parted key _ stage hkey (Or.inl rfl))
      · exact hlater (Or.inr (Or.inr rfl)) (hcrew.parted key _ stage hkey (Or.inr rfl))
      · exact .close

/-! ### What has been sent altogether -/

private theorem Opens.lasts {message : Value} (h : Opens s worker message) (hl : Lasts s s') :
    Opens s' worker message := by
  obtain ⟨launch, hlaunch, rfl⟩ := h
  exact ⟨launch, hl.launch_stays hlaunch, by rw [hl.process, hl.options]⟩

private theorem Opened.lasts {messages : List (Nat × Value)} (h : Opened s es worker messages) (hl : Lasts s s')
    (e : Entry) : Opened s' (e :: es) worker messages := by
  cases h with
  | nothing => exact .nothing
  | greeted ho => exact .greeted (ho.lasts hl)
  | confirmed ho htold hrest =>
    obtain ⟨stage', htold'⟩ := hl.job_stays htold
    refine .confirmed (ho.lasts hl) htold' fun p hp => ?_
    obtain ⟨hran, job, stage, hkey, hjob⟩ := hrest p hp
    obtain ⟨stage'', hkey'⟩ := hl.job_stays hkey
    exact ⟨hran.cons e, job, stage'', hkey', hjob⟩

private theorem Opened.append (h : Opened s es worker (sent worker es)) {letter : Channel.Letter}
    (ht : InTurn s es worker letter) :
    Opened s es worker (sent worker es ++ [letter].filterMap Channel.Letter.sent?) := by
  cases ht with
  | reply _ _ | close => simpa using h
  | first ho hsent =>
    rw [hsent]
    exact .greeted ho
  | second hkey ho hsent _ _ =>
    rw [hsent]
    exact .confirmed ho hkey nofun
  | @later key told job stage id first hkey hjob hran hsent =>
    generalize sent worker es = messages at h hsent
    cases h with
    | nothing => cases hsent.length_le
    | greeted _ => simp at hsent
    | confirmed ho htold hrest =>
      refine .confirmed ho htold fun p hp => ?_
      rcases List.mem_append.1 hp with hp | hp
      · exact hrest p hp
      · obtain ⟨letter, hletter, hsender⟩ := List.mem_filterMap.1 hp
        obtain rfl := List.mem_singleton.1 hletter
        have hkey' : p.1 = key := by
          cases hcommand : job.command id with
          | send message =>
            rw [hcommand] at hsender
            cases hsender
            rfl
          | shutdown => simp [hcommand] at hsender
        exact ⟨hran, job, stage, by rw [hkey', hkey], hjob⟩

private theorem Run.opened (h : Run options process es s) (hpublic : ∀ e ∈ es, e.label.isPublic = true)
    (hleft : worker ∉ orphans es) : Opened s es worker (sent worker es) := by
  induction h with
  | fresh => exact .nothing
  | @move es s s' now label hrun hstep ih =>
    rw [orphans_cons, List.mem_append, not_or] at hleft
    have hpublic' : ∀ e ∈ es, e.label.isPublic = true := fun e he => hpublic e (List.mem_cons_of_mem _ he)
    have hopened := ih hpublic' hleft.2
    have hmail := hrun.mail hstep worker
    have hturn := hrun.in_turn hpublic' hleft.2 hopened hmail
    rw [sent_cons]
    refine Opened.lasts ?_ (lasts_of_step hstep) _
    generalize Entry.mail worker ⟨s, now, label, s'⟩ = letters at hmail hturn
    cases hmail with
    | silent => simpa using hopened
    | reply _ _ | caller _ _ _ _ => exact hopened.append (hturn _ List.mem_cons_self)

end

end Supervisor

end Attendant
