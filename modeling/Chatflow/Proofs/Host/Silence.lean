import Chatflow.Generation.Script
import Chatflow.Proofs.Host.Rounds
import Chatflow.Proofs.Walk.Asking
import Chatflow.Proofs.Walk.Delivery

/-!
# Workflows that can say nothing

A workflow without AI actions and without outputs of type `message` is silent (`Workflow.isSilent`): a run of it says
nothing and asks nothing, whatever its variables, webhooks, loops and failures are (`run_of_isSilent`).  All that it
leaves to the runs behind it is what it posted.

A network may choose its replies by what was posted before.  Where the client passes on and the clock stands still, that
makes no difference to a run (`run_shifted`), and so none to a row of chances from which silent ones are taken out
(`Tries.without_silent`).  So a silent workflow makes no difference to a chat turn (`respond_without_silent`).
-/

namespace Chatflow

/-- Whether a node neither asks nor says anything: no AI action, and no output of type `message`. -/
def Node.isSilent (node : Node) : Bool :=
  node.kind != .aiAction &&
    match node.config with
    | .ok (.output c) => c.outputType != some "message"
    | _ => true

/-- Whether no node of a workflow asks or says anything. -/
def Workflow.isSilent (w : Workflow) : Bool := w.nodes.all Node.isSilent

/-- The same was asked and the same was posted, but that the second services posted more in between. -/
structure Services.Shifted (before between : List HttpRequest) (first second : Services) : Prop where
  asked : first.asked = second.asked
  posted : ∃ behind, first.posted = before ++ behind ∧ second.posted = before ++ between ++ behind

variable {before between : List HttpRequest}

theorem Services.Shifted.later {s t : Services} (h : s.Shifted before between t) (n : Nat) :
    (s.later n).Shifted before between (t.later n) := ⟨h.asked, h.posted⟩

/-! ## Nodes -/

namespace Tools

variable {tools : Tools} {node : Node}

theorem said_of_isSilent (h : node.isSilent = true) (context : Context) (services : Services) :
    tools.said node context services = [] := by
  unfold said
  split
  · rename_i c hc
    have hother : c.outputType ≠ some "message" := by
      simp only [Node.isSilent, hc, Bool.and_eq_true, bne_iff_ne] at h
      exact h.2
    rw [if_neg hother]
  · rfl

theorem asks_of_isSilent (h : node.isSilent = true) (context : Context) (services : Services) :
    tools.asks node context services = none := by
  rw [Option.eq_none_iff_forall_ne_some]
  intro prompt hask
  obtain ⟨-, c, -, hc, -⟩ := asks_eq_some_iff.mp hask
  have hkind : node.kind ≠ .aiAction := by
    simp only [Node.isSilent, Bool.and_eq_true, bne_iff_ne] at h
    exact h.1
  exact hkind (Node.kind_of_config hc).symm

/-- Under a clock that stands still a node does the same behind more requests. -/
theorem visit_shifted (tools : Tools) (hpasses : tools.client.PassesOn) (hstill : tools.clock.Still) (node : Node)
    (context : Context) {s t : Services} (hst : s.Shifted before between t) :
    (tools.handlers.visit node context s).Follows (Services.Shifted before between)
      (tools.handlers.visit node context t) := by
  have hbeside : tools.Beside s t := ⟨hst.asked, fun _ => hstill _ _⟩
  obtain ⟨hverdict, hcontext, hasked⟩ := visit_agree hbeside tools.network tools.network hpasses node context
  have hrefusal := (refusal_visit tools node context s).trans (refusal_visit tools node context t).symm
  obtain ⟨behind, hs, ht⟩ := hst.posted
  refine ⟨hverdict, hcontext, hrefusal, hasked, behind ++ (tools.sent node context s).toList, ?_, ?_⟩
  · rw [visit_posted, hs, List.append_assoc]
  · rw [visit_posted, ht, List.append_assoc, hbeside.sent]

end Tools

namespace Host

variable {host : Host} {w : Workflow} {context : Context} {trace : Trace} {s t : Services}

/-! ## Runs -/

theorem mem_of_mem_steps_run {start : String} {step : Step}
    (h : step ∈ (host.run w trace start context s).walk.steps) : step.node ∈ w.nodes := by
  obtain ⟨n, hrun⟩ := Walker.run_walk (host.walker w) (host.setup w s) start
  obtain ⟨hsteps, -, -⟩ := hrun trace context (s.later 1)
  exact Walker.mem_of_mem_steps (hsteps ▸ h)

/-- What a run asks and posts stands behind what was asked and posted before. -/
theorem state_run (host : Host) (w : Workflow) (trace : Trace) (start : String) (context : Context) (s : Services) :
    let walk := (host.run w trace start context s).walk
    walk.state.asked = s.asked ++ host.tools.asked (s.ticks + 1) walk.steps ∧
      walk.state.posted = s.posted ++ (walk.owed host.tools (s.ticks + 1)).filter host.client.sends :=
  ⟨Walker.run_asked _ host.tools _ trace start context (s.later 1),
    Walker.run_posted _ host.tools _ trace start context (s.later 1)⟩

/-- **A run of a silent workflow says nothing and asks nothing.** -/
theorem run_of_isSilent (hw : w.isSilent = true) (trace : Trace) (start : String) (context : Context) (s : Services) :
    let run := host.run w trace start context s
    spoken context.messages.length run.walk.context = none ∧ run.walk.state.asked = s.asked := by
  intro run
  have hsilent : ∀ timed ∈ Step.timed Tools.pace (s.ticks + 1) run.walk.steps, timed.1.node.isSilent = true :=
    fun timed htimed => List.all_eq_true.mp hw timed.1.node (mem_of_mem_steps_run (Step.mem_of_mem_timed htimed))
  have hsaid : run.walk.said host.tools (s.ticks + 1) = [] := List.flatMap_eq_nil_iff.mpr fun timed htimed =>
    Tools.said_of_isSilent (hsilent timed htimed) timed.1.before _
  have hasks : host.tools.asked (s.ticks + 1) run.walk.steps = [] := List.filterMap_eq_nil_iff.mpr fun timed htimed =>
    Tools.asks_of_isSilent (hsilent timed htimed) timed.1.before _
  refine ⟨?_, ?_⟩
  · rw [spoken_run, Round.answer?, Round.said, hsaid]
    rfl
  · rw [(host.state_run w trace start context s).1, hasks, List.append_nil]

section Still

variable (hpasses : host.client.PassesOn) (hstill : host.clock.Still)
include hstill

/-- Under a clock that stands still all that a host says is the same at any time. -/
theorem said_still (s t : Services) (role : Role) (content : String) :
    host.said s role content = host.said t role content := by
  rw [said, said, reading, reading, reading, reading, hstill (s.ticks + 0) (t.ticks + 0),
    hstill (s.ticks + 1) (t.ticks + 1)]

theorem message_still (s t : Services) (role : Role) (content : Value) :
    host.message s role content = host.message t role content := by
  simp only [message, said_still hstill s t]

include hpasses

/-- **A run does the same behind more requests.** -/
theorem run_shifted (hst : s.Shifted before between t) (w : Workflow) (start : String) (context : Context)
    (trace trace' : Trace) :
    let run := host.run w trace start context s
    let run' := host.run w trace' start context t
    run.walk.context = run'.walk.context ∧ run.walk.state.Shifted before between run'.walk.state := by
  intro run run'
  have hsetup : host.setup w s = host.setup w t := by
    rw [setup, setup, reading, reading, hstill (s.ticks + 0) (t.ticks + 0)]
  have hrun' : run' = (host.walker w).run (host.setup w s) trace' start context (t.later 1) := by
    rw [hsetup]
    rfl
  have hvisit : ∀ node context state other, Services.Shifted before between state other →
      ((host.walker w).handlers.visit node context state).Follows (Services.Shifted before between)
        ((host.walker w).handlers.visit node context other) := fun node context _ _ hstates =>
    host.tools.visit_shifted hpasses hstill node context hstates
  obtain ⟨hfollows, -, -⟩ :=
    Walker.run_follows rfl hvisit (host.setup w s) trace trace' start context (hst.later 1)
  rw [hrun']
  exact ⟨hfollows.context, hfollows.state⟩

end Still

/-! ## Rows of chances -/

section Rows

variable {assistant : Assistant} {node : Node} {quiet turns earlier later : List (Workflow × Node)}
  {done done' : Done Attempt}

/-- What comes of a row when the first chance is taken. -/
theorem Tries.of_spoken (h : Tries host assistant context ((w, node) :: turns) trace s done) {content : String}
    (hs : spoken context.messages.length (host.run w trace node.id context s).walk.context = some content) :
    done.result = .ok (.spoke w.id content) ∧ done.services = (host.run w trace node.id context s).walk.state := by
  cases h with
  | spoke ran speaks =>
    subst ran
    obtain rfl := Option.some.inj (hs.symm.trans speaks)
    exact ⟨rfl, rfl⟩
  | on ran quiet =>
    subst ran
    cases hs.symm.trans quiet

/-- When the first chance is not taken, what comes of a row comes of the others. -/
theorem Tries.of_quiet (h : Tries host assistant context ((w, node) :: turns) trace s done)
    (hs : spoken context.messages.length (host.run w trace node.id context s).walk.context = none) :
    let run := host.run w trace node.id context s
    ∃ further, Tries host assistant context turns run.trace run.walk.state further ∧
      done.result = further.result ∧ done.services = further.services := by
  cases h with
  | spoke ran speaks =>
    subst ran
    cases hs.symm.trans speaks
  | on ran _ further =>
    subst ran
    exact ⟨_, further, rfl, rfl⟩

/-- The same comes of a row of chances behind more requests. -/
theorem Tries.shifted (hpasses : host.client.PassesOn) (hstill : host.clock.Still) {trace' : Trace}
    (h : Tries host assistant context turns trace s done) (h' : Tries host assistant context turns trace' t done')
    (hst : s.Shifted before between t) :
    done.result = done'.result ∧ done.services.Shifted before between done'.services := by
  induction turns generalizing trace trace' s t done done' with
  | nil =>
    cases h
    cases h'
    exact ⟨rfl, hst⟩
  | cons turn turns ih =>
    obtain ⟨w, node⟩ := turn
    obtain ⟨hcontext, hstate⟩ := run_shifted hpasses hstill hst w node.id context trace trace'
    cases hs : spoken context.messages.length (host.run w trace node.id context s).walk.context with
    | some content =>
      obtain ⟨hresult, hservices⟩ := h.of_spoken hs
      obtain ⟨hresult', hservices'⟩ := h'.of_spoken (hcontext ▸ hs)
      rw [hservices, hservices']
      exact ⟨hresult.trans hresult'.symm, hstate⟩
    | none =>
      obtain ⟨further, htries, hresult, hservices⟩ := h.of_quiet hs
      obtain ⟨further', htries', hresult', hservices'⟩ := h'.of_quiet (hcontext ▸ hs)
      obtain ⟨hsame, hshifted⟩ := ih htries htries' hstate
      rw [hservices, hservices']
      exact ⟨hresult.trans (hsame.trans hresult'.symm), hshifted⟩

/-- Silent chances in front of others only leave what they posted. -/
theorem Tries.behind_silent (hquiet : ∀ turn ∈ quiet, turn.1.isSilent = true)
    (h : Tries host assistant context (quiet ++ turns) trace s done) :
    ∃ trace' t further between, Tries host assistant context turns trace' t further ∧ t.asked = s.asked ∧
      t.posted = s.posted ++ between ∧ done.result = further.result ∧ done.services = further.services := by
  induction quiet generalizing trace s done with
  | nil => exact ⟨trace, s, done, [], h, rfl, (List.append_nil _).symm, rfl, rfl⟩
  | cons turn quiet ih =>
    obtain ⟨w, node⟩ := turn
    obtain ⟨hnone, hasked⟩ := run_of_isSilent (hquiet (w, node) List.mem_cons_self) trace node.id context s
    obtain ⟨first, hfirst, hresult, hservices⟩ := h.of_quiet hnone
    obtain ⟨trace', t, further, between, htries, hasked', hposted, hresult', hservices'⟩ :=
      ih (fun turn hturn => hquiet turn (List.mem_cons_of_mem _ hturn)) hfirst
    rw [(host.state_run w trace node.id context s).2, List.append_assoc] at hposted
    exact ⟨trace', t, further, _, htries, hasked'.trans hasked, hposted, hresult.trans hresult',
      hservices.trans hservices'⟩

/-- **Taking silent chances out of a row makes no difference to what comes of it.** -/
theorem Tries.without_silent (hpasses : host.client.PassesOn) (hstill : host.clock.Still)
    (hquiet : ∀ turn ∈ quiet, turn.1.isSilent = true)
    (h : Tries host assistant context (earlier ++ later) trace s done)
    (h' : Tries host assistant context (earlier ++ (quiet ++ later)) trace s done') :
    done.result = done'.result ∧
      ∃ before between, s.posted <+: before ∧ done.services.Shifted before between done'.services := by
  induction earlier generalizing trace s done done' with
  | nil =>
    obtain ⟨trace', t, further, between, htries, hasked, hposted, hresult, hservices⟩ := h'.behind_silent hquiet
    have hst : s.Shifted s.posted between t :=
      ⟨hasked.symm, [], (List.append_nil _).symm, by rw [List.append_nil, hposted]⟩
    obtain ⟨hsame, hshifted⟩ := h.shifted hpasses hstill htries hst
    exact ⟨hsame.trans hresult.symm, _, _, List.prefix_refl _, hservices ▸ hshifted⟩
  | cons turn earlier ih =>
    -- Both rows begin with the same run.
    obtain ⟨w, node⟩ := turn
    have hprefix : s.posted <+: (host.run w trace node.id context s).walk.state.posted :=
      ⟨_, (host.state_run w trace node.id context s).2.symm⟩
    cases hs : spoken context.messages.length (host.run w trace node.id context s).walk.context with
    | some content =>
      obtain ⟨hresult, hservices⟩ := h.of_spoken hs
      obtain ⟨hresult', hservices'⟩ := h'.of_spoken hs
      rw [hservices, hservices']
      exact ⟨hresult.trans hresult'.symm, _, [], hprefix, rfl, [], (List.append_nil _).symm, by simp⟩
    | none =>
      obtain ⟨further, htries, hresult, hservices⟩ := h.of_quiet hs
      obtain ⟨further', htries', hresult', hservices'⟩ := h'.of_quiet hs
      obtain ⟨hsame, before, between, hbehind, hshifted⟩ := ih htries htries'
      rw [hservices, hservices']
      exact ⟨hresult.trans (hsame.trans hresult'.symm), before, between, hprefix.trans hbehind, hshifted⟩

end Rows

/-! ## Answers -/

section Answers

variable {conversation history : List Message} {assistant : Assistant} {text user : Value} {workflows : List Workflow}
  {tried tried' : Done Attempt}

/-- A direct question posts nothing, and has the same answer behind more requests. -/
theorem askDirectly_shifted (hstill : host.clock.Still) (hst : s.Shifted before between t) (trace' : Trace) :
    let direct := host.askDirectly conversation assistant trace s
    let direct' := host.askDirectly conversation assistant trace' t
    direct.result = direct'.result ∧ direct.services.Shifted before between direct'.services := by
  obtain ⟨hasked, hposted⟩ := hst
  dsimp only
  unfold askDirectly
  cases host.provider with
  | none => exact ⟨rfl, hasked, hposted⟩
  | some provider =>
    cases host.directPrompt conversation assistant with
    | error fault => exact ⟨rfl, hasked, hposted⟩
    | ok prompt =>
      rw [← hasked]
      dsimp only
      cases (provider.generate s.asked prompt).result with
      | ok content => exact ⟨message_still hstill _ _ _ _, rfl, hposted⟩
      | error fault =>
        dsimp only
        split
        · exact ⟨congrArg Except.ok (said_still hstill _ _ _ _), rfl, hposted⟩
        · exact ⟨rfl, rfl, hposted⟩

/-- The same comes of an attempt behind more requests. -/
theorem answerBehind_shifted (hstill : host.clock.Still) (hresult : tried.result = tried'.result)
    (hst : tried.services.Shifted before between tried'.services) :
    let answer := host.answerBehind conversation assistant tried
    let answer' := host.answerBehind conversation assistant tried'
    answer.result = answer'.result ∧ answer.services.Shifted before between answer'.services := by
  dsimp only
  unfold answerBehind
  rw [← hresult]
  cases tried.result with
  | error fault => exact ⟨rfl, hst⟩
  | ok attempt =>
    cases attempt with
    | spoke workflow content =>
      refine ⟨?_, hst.later Message.pace⟩
      dsimp only
      rw [said_still hstill tried.services tried'.services]
    | silent =>
      obtain ⟨hdirect, hleft⟩ := askDirectly_shifted hstill hst tried'.trace
      exact ⟨congrArg (Except.map _) hdirect, hleft⟩

end Answers

/-! ## Chat turns -/

theorem chances_append (first second : List Workflow) : chances (first ++ second) = chances first ++ chances second :=
  List.flatMap_append

/-- **A silent workflow makes no difference to a chat turn**, where the client passes on what was answered and no time
passes: with it and without it the answer is the same, and so is what the provider is asked.  What the silent workflow
posts comes in between, and all else that is posted is the same. -/
theorem respond_without_silent (host : Host) (earlier later : List Workflow) (w : Workflow) (history : List Message)
    (text : Value) (assistant : Assistant) (user : Value) (trace : Trace) (services : Services)
    (reply reply' : ChatReply) (hpasses : host.client.PassesOn) (hstill : host.clock.Still) (silent : w.isSilent = true)
    (hreply : (host.respond (earlier ++ later) history text assistant user trace services).result = .ok reply)
    (hreply' : (host.respond (earlier ++ w :: later) history text assistant user trace services).result = .ok reply') :
    let without := host.respond (earlier ++ later) history text assistant user trace services
    let turn := host.respond (earlier ++ w :: later) history text assistant user trace services
    reply' = reply ∧ turn.services.asked = without.services.asked ∧
      ∃ before between behind, services.posted <+: before ∧ without.services.posted = before ++ behind ∧
        turn.services.posted = before ++ between ++ behind := by
  cases hsaid : host.message services .user text with
  | error fault =>
    rw [respond, hsaid] at hreply
    cases hreply
  | ok said =>
    simp only [respond_of_said hsaid] at hreply hreply' ⊢
    obtain ⟨attempt, hattempt⟩ := attempt_of_answerBehind hreply
    obtain ⟨attempt', hattempt'⟩ := attempt_of_answerBehind hreply'
    -- One context serves all chances, and those of the shorter row are among those of the longer one.
    obtain ⟨context, hfresh, -, hmessages⟩ := exists_context hattempt'
    have hchances : chances (earlier ++ w :: later) = [] → chances (earlier ++ later) = [] := by
      simp only [chances_append, chances_cons, List.append_eq_nil_iff]
      exact fun h => ⟨h.1, h.2.2⟩
    have htries := tries_of_tryWorkflows hmessages (fun hne => hfresh fun h => hne (hchances h)) hattempt
    have htries' := tries_of_tryWorkflows hmessages hfresh hattempt'
    rw [chances_append] at htries
    rw [chances_append, chances_cons] at htries'
    have hquiet : ∀ turn ∈ (w.nodes.filter Workflow.isChatTrigger).map (w, ·), turn.1.isSilent = true := by
      intro turn hturn
      obtain ⟨node, -, rfl⟩ := List.mem_map.mp hturn
      exact silent
    obtain ⟨hresult, before, between, hprefix, hst⟩ := htries.without_silent hpasses hstill hquiet htries'
    obtain ⟨hanswer, hasked, behind, hposted, hposted'⟩ := answerBehind_shifted hstill hresult hst
    rw [hanswer] at hreply
    exact ⟨Except.ok.inj (hreply'.symm.trans hreply), hasked.symm, before, between, behind, hprefix, hposted, hposted'⟩

/-- A workflow that posts a text to an address. -/
def quietPoster : Workflow :=
  { id := "quiet"
    nodes := [{ id := "t", kind := .trigger, data := [("triggerType", .text "message")] },
      { id := "n", kind := .output,
        data := [("outputType", .text "webhook"), ("url", .text "https://h.example/x"), ("content", .text "seen")] }]
    connections := [{ id := "1", source := "t", target := "n" }] }

/-- A workflow that posts a text to an address and then greets. -/
def postingGreeter : Workflow :=
  { id := "hooked"
    nodes := [{ id := "t", kind := .trigger, data := [("triggerType", .text "message")] },
      { id := "o", kind := .output,
        data := [("outputType", .text "webhook"), ("url", .text "https://h.example/y"), ("content", .text "note")] },
      { id := "g", kind := .output, data := [("outputType", .text "message"), ("content", .text "hello")] }]
    connections := [{ id := "1", source := "t", target := "o" }, { id := "2", source := "o", target := "g" }] }

/-- A host whose first exchange breaks off; all later ones are answered. -/
def hookHost : Host :=
  { Host.idle with
    provider := some (Script.provider {}), webhook := some {},
    network := fun earlier _ => if earlier.isEmpty then .broken "refused" else .status 200 }

/-- A chat turn of this host. -/
def hookTurn (workflows : List Workflow) : Done ChatReply :=
  hookHost.respond workflows [] (.text "m") { name := .text "A" } (.int 1) [] {}

/-- Behind the quiet workflow the greeter gets another reply to its request, and greets all the same. -/
theorem respond_without_silent_poster : ∃ reply, quietPoster.isSilent = true ∧
    (hookTurn [postingGreeter]).result = .ok reply ∧ (hookTurn [quietPoster, postingGreeter]).result = .ok reply ∧
    reply.reply.content = "hello" ∧ (hookTurn [quietPoster, postingGreeter]).services.posted.length = 2 := by
  have hsilent : quietPoster.isSilent = true := by decide +kernel
  have hcontent : (hookTurn [postingGreeter]).result.toOption.map (·.reply.content) = some "hello" := by decide +kernel
  have hanswered : (hookTurn [quietPoster, postingGreeter]).result.toOption.isSome = true := by decide +kernel
  have hposted : (hookTurn [quietPoster, postingGreeter]).services.posted.length = 2 := by decide +kernel
  cases hreply : (hookTurn [postingGreeter]).result with
  | error fault =>
    rw [hreply] at hcontent
    cases hcontent
  | ok reply =>
    cases hreply' : (hookTurn [quietPoster, postingGreeter]).result with
    | error fault =>
      rw [hreply'] at hanswered
      cases hanswered
    | ok reply' =>
      obtain ⟨hsame, -⟩ := respond_without_silent hookHost [] [postingGreeter] quietPoster [] _ _ _ _ _ reply reply'
        HttpClient.passesOn_faithful (Tick.still_forever _) hsilent hreply hreply'
      rw [hreply] at hcontent
      exact ⟨reply, hsilent, rfl, congrArg Except.ok hsame, Option.some.inj hcontent, hposted⟩

end Host

end Chatflow
