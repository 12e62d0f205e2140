import Chatflow.Host.ManualRun
import Chatflow.Proofs.Handler.Refusal
import Chatflow.Proofs.Host.Answered
import Chatflow.Proofs.Number.Scale

/-!
# The temperatures of prompts

A provider expects a number from zero to one, and settings go from zero to a hundred (`Prompt.IsScaled`).

What a node stores is checked when the node is read: one whose temperature is no setting fails and asks nothing
(`visit_of_not_setting`), and what nodes ask is always scaled (`isScaled_of_asks`).  The temperature of an assistant is
not checked.  It is divided by a hundred as it is, and a direct question is scaled exactly when the assistant's
temperature is on the scale (`isScaled_iff_inScale`).
-/

namespace Chatflow

open Binary64 (one InUnit)
open Schema (readReal readBetween orNull)

/-- The temperature of a prompt is a number from zero to one. -/
def Prompt.IsScaled (prompt : Prompt) : Prop := ∃ x, prompt.temperature = .real x ∧ x.InUnit

/-- The temperature of a prompt is zero. -/
def Prompt.IsCold (prompt : Prompt) : Prop := ∃ x, prompt.temperature = .real x ∧ x.position = some 0

namespace Value

/-- A number whose hundredth lies between zero and one. -/
def InScale (v : Value) : Prop :=
  (∃ n, v.whole? = some n ∧ 0 ≤ n ∧ n ≤ 100) ∨ ∃ x p, v = real x ∧ x.position = some p ∧ -50 ≤ p ∧ p ≤ 100 * one

/-- A zero, whole or not. -/
def IsZero (v : Value) : Prop := v.whole? = some 0 ∨ ∃ x, v = real x ∧ x.position = some 0

/-- What a node may store for its temperature: null, or what is read as a number from zero to a hundred. -/
def IsSetting (v : Value) : Prop :=
  v = null ∨ ∃ x p, readReal v = .ok x ∧ x.position = some p ∧ 0 ≤ p ∧ p ≤ 100 * one

end Value

/-! ## Settings of nodes -/

namespace Binary64

theorem position_hundred : (ofRatio false 100 1).position = some (100 * one : Nat) := by
  have hgrid : OnGrid (100 * one) := by decide +kernel
  rw [ofRatio, ofUnits_of_onGrid _ hgrid]
  rfl

theorem position_zero : (ofRatio false 0 1).position = some 0 := by
  have hgrid : OnGrid (0 * one) := by
    rw [Nat.zero_mul]
    exact onGrid_zero
  rw [ofRatio, ofUnits_of_onGrid _ hgrid, position_finite, Nat.zero_mul]
  rfl

/-- The hundredth of a zero is a zero. -/
theorem position_divNat_of_zero {x : Binary64} (h : x.position = some 0) : (x.divNat 100).position = some 0 := by
  have hlimit := limit_pos
  cases x with
  | nan => cases h
  | infinite negative =>
    exfalso
    cases negative
    · have hp := Option.some.inj h
      omega
    · have hp := Option.some.inj h
      omega
  | finite negative units onGrid =>
    rw [position_finite, Option.some_inj] at h
    have hunits : units = 0 := by rw [← natAbs_place negative units, h, Int.natAbs_zero]
    subst hunits
    have hlt : nearest 0 100 < limit := by rwa [nearest_zero]
    rw [divNat, ofUnits_of_lt _ hlt, position_finite, nearest_zero]
    cases negative <;> rfl

theorem below_or_same_iff {x y : Binary64} :
    (x.below y || x.same y) = true ↔ ∃ p q, x.position = some p ∧ y.position = some q ∧ p ≤ q := by
  unfold below same
  cases x.position with
  | none => simp
  | some p =>
    cases y.position with
    | none => simp
    | some q =>
      simp only [Bool.or_eq_true, decide_eq_true_eq, beq_iff_eq, Option.some_inj, exists_and_left, exists_eq_left']
      omega

end Binary64

namespace Schema

theorem readBetween_eq_ok_iff {least greatest : Nat} {v : Value} {x : Binary64} :
    readBetween least greatest v = .ok x ↔ readReal v = .ok x ∧
      (x.below (.ofRatio false greatest 1) || x.same (.ofRatio false greatest 1)) = true ∧
      ((Binary64.ofRatio false least 1).below x || (Binary64.ofRatio false least 1).same x) = true := by
  unfold readBetween
  cases readReal v with
  | error problems => exact iff_of_false nofun fun h => nomatch h.1
  | ok y =>
    dsimp only
    split_ifs with hhigh hlow
    · refine iff_of_false nofun fun h => ?_
      rw [← Except.ok.inj h.1] at h
      rw [h.2.1] at hhigh
      cases hhigh
    · refine iff_of_false nofun fun h => ?_
      rw [← Except.ok.inj h.1] at h
      rw [h.2.2] at hlow
      cases hlow
    · constructor
      · intro h
        obtain rfl := Except.ok.inj h
        rw [Bool.not_eq_true, Bool.not_eq_false'] at hhigh hlow
        exact ⟨rfl, hhigh, hlow⟩
      · exact fun h => h.1

/-- What a node may have for a temperature. -/
theorem readBetween_hundred_iff {v : Value} {x : Binary64} :
    readBetween 0 100 v = .ok x ↔ readReal v = .ok x ∧ ∃ p, x.position = some p ∧ 0 ≤ p ∧ p ≤ 100 * one := by
  rw [readBetween_eq_ok_iff, Binary64.below_or_same_iff, Binary64.below_or_same_iff, Binary64.position_hundred,
    Binary64.position_zero]
  refine and_congr_right fun _ => ?_
  constructor
  · rintro ⟨⟨p, q, hp, hq, hle⟩, q', p', hq', hp', hle'⟩
    obtain rfl := Option.some.inj hq
    obtain rfl := Option.some.inj hq'
    obtain rfl := Option.some.inj (hp.symm.trans hp')
    exact ⟨p, hp, hle', by rwa [Int.natCast_mul] at hle⟩
  · rintro ⟨p, hp, hlow, hhigh⟩
    exact ⟨⟨p, _, hp, rfl, by rwa [Int.natCast_mul]⟩, 0, p, rfl, hp, hlow⟩

end Schema

/-- The temperature that an AI action has was read between bounds. -/
theorem temperature_of_config {node : Node} {c : AiActionConfig} (h : node.config = .ok (.aiAction c)) :
    match node.data.get? "temperature" with
    | none => c.temperature = none
    | some v => orNull (readBetween 0 100) v = .ok c.temperature := by
  have hkind : node.kind = .aiAction := (Node.kind_of_config h).symm
  have hread : AiActionConfig.read (.ofFields node.data) = .ok c := by
    rw [Node.config, hkind, Schema.report_eq_ok_iff] at h
    cases hr : AiActionConfig.read (.ofFields node.data) with
    | error problems =>
      simp only [NodeConfig.read, hr] at h
      cases h
    | ok read =>
      simp only [NodeConfig.read, hr] at h
      exact congrArg Except.ok (NodeConfig.aiAction.inj (Except.ok.inj h))
  simp only [AiActionConfig.read, Value.ofFields, Schema.entriesOf, Schema.also_eq_ok_iff] at hread
  obtain ⟨_, _, ⟨_, _, ⟨_, temperature, ⟨_, _, ⟨_, _, hmake, -, rfl⟩, -, rfl⟩, htemperature, rfl⟩, -, rfl⟩, -, rfl⟩ :=
    hread
  obtain rfl := Except.ok.inj hmake
  unfold Schema.Entries.optional at htemperature
  rw [Schema.field?_ofFields, Schema.Name.plain, Option.or_self] at htemperature
  cases hv : node.data.get? "temperature" with
  | none =>
    rw [hv] at htemperature
    exact (Except.ok.inj htemperature).symm
  | some v =>
    rw [hv] at htemperature
    exact Schema.under_eq_ok_iff.mp htemperature

theorem Schema.orNull_cases {α : Type} {read : Value → Schema.Checked α} {v : Value} {a : Option α}
    (h : orNull read v = .ok a) : (v = .null ∧ a = none) ∨ ∃ b, read v = .ok b ∧ a = some b := by
  by_cases hnull : v = .null
  · subst hnull
    exact Or.inl ⟨rfl, (Except.ok.inj h).symm⟩
  · have hread : (read v).map some = .ok a := by
      unfold orNull at h
      split at h
      · exact absurd rfl hnull
      · exact h
    cases hb : read v with
    | error problems =>
      rw [hb] at hread
      cases hread
    | ok b =>
      rw [hb] at hread
      exact Or.inr ⟨b, rfl, (Except.ok.inj hread).symm⟩

theorem isSetting_of_config {node : Node} {c : AiActionConfig} {v : Value} (h : node.config = .ok (.aiAction c))
    (hv : node.data.get? "temperature" = some v) : v.IsSetting := by
  have hread := temperature_of_config h
  rw [hv] at hread
  rcases Schema.orNull_cases hread with ⟨rfl, -⟩ | ⟨x, hx, -⟩
  · exact Or.inl rfl
  · obtain ⟨hreal, p, hp, hlow, hhigh⟩ := Schema.readBetween_hundred_iff.mp hx
    exact Or.inr ⟨x, p, hreal, hp, hlow, hhigh⟩

/-- An AI action has no temperature, or one on the scale. -/
theorem temperature_cases {node : Node} {c : AiActionConfig} (h : node.config = .ok (.aiAction c)) :
    c.temperature = none ∨
      ∃ x p, c.temperature = some x ∧ x.position = some p ∧ 0 ≤ p ∧ p ≤ 100 * one := by
  have hread := temperature_of_config h
  split at hread
  · exact Or.inl hread
  · rcases Schema.orNull_cases hread with ⟨-, hnone⟩ | ⟨x, hx, hsome⟩
    · exact Or.inl hnone
    · obtain ⟨-, p, hp, hlow, hhigh⟩ := Schema.readBetween_hundred_iff.mp hx
      exact Or.inr ⟨x, p, hsome, hp, hlow, hhigh⟩

/-- A zero is read as one. -/
theorem position_of_isZero {v : Value} {x : Binary64} (h : v.IsZero) (hx : readReal v = .ok x) :
    x.position = some 0 := by
  have hround : Binary64.ofInt? 0 = some (.ofRatio false 0 1) := by
    refine Binary64.ofInt?_eq_some_iff.mpr ⟨rfl, ?_⟩
    rw [Int.natAbs_zero, Nat.zero_mul, Binary64.nearest_zero]
    exact Binary64.limit_pos
  rcases h with hwhole | ⟨y, rfl, hy⟩
  · cases v with
    | bool b =>
      cases b
      · obtain rfl := Except.ok.inj hx
        exact Binary64.position_zero
      · cases hwhole
    | int n =>
      obtain rfl := Option.some.inj hwhole
      rw [readReal, hround] at hx
      obtain rfl := Except.ok.inj hx
      exact Binary64.position_zero
    | _ => cases hwhole
  · obtain rfl := Except.ok.inj hx
    exact hy

/-! ## What nodes ask -/

namespace Tools

theorem position_defaultTemperature : defaultTemperature.position = some (50 * one : Nat) := by
  have hgrid : Binary64.OnGrid (50 * one) := by decide +kernel
  rw [defaultTemperature, Binary64.ofRatio, Binary64.ofUnits_of_onGrid _ hgrid]
  rfl

variable {tools : Tools} {node : Node} {context : Context} {services : Services} {prompt : Prompt}

theorem isScaled_promptOf {c : AiActionConfig} (h : node.config = .ok (.aiAction c)) (text : String) :
    (promptOf c context text).IsScaled := by
  refine ⟨_, rfl, (Binary64.inUnit_divNat_iff _).mpr ?_⟩
  rcases temperature_cases h with hnone | ⟨x, p, hx, hp, hlow, hhigh⟩
  · rw [hnone, Option.getD_none]
    refine ⟨(50 * one : Nat), position_defaultTemperature, ?_⟩
    have hone := Binary64.one_pos
    omega
  · rw [hx]
    exact ⟨p, hp, by omega, hhigh⟩

/-- **What a node asks is scaled.** -/
theorem isScaled_of_asks (h : tools.asks node context services = some prompt) : prompt.IsScaled := by
  obtain ⟨-, c, text, hc, -, -, rfl⟩ := asks_eq_some_iff.mp h
  exact isScaled_promptOf hc text

/-- **A node whose temperature is no setting fails, and asks nothing.** -/
theorem visit_of_not_setting {v : Value} (hkind : node.kind = .aiAction)
    (hv : node.data.get? "temperature" = some v) (h : ¬v.IsSetting) :
    (∃ error, (tools.handlers.visit node context services).verdict = .failed error) ∧
      (tools.handlers.visit node context services).state = services := by
  cases hc : node.config with
  | error report =>
    obtain ⟨hverdict, hstate, -⟩ := visit_of_refuses
      (Refuses.unread hc : tools.Refuses node context services _ services)
    exact ⟨⟨_, hverdict⟩, hstate⟩
  | ok config =>
    have hsame := Node.kind_of_config hc
    rw [hkind] at hsame
    cases config with
    | aiAction c => exact absurd (isSetting_of_config hc hv) h
    | trigger | condition | output => cases hsame

/-- A stored zero is passed as zero. -/
theorem isCold_of_asks {v : Value} (h : tools.asks node context services = some prompt)
    (hv : node.data.get? "temperature" = some v) (hzero : v.IsZero) : prompt.IsCold := by
  obtain ⟨-, c, text, hc, -, -, rfl⟩ := asks_eq_some_iff.mp h
  have hread := temperature_of_config hc
  rw [hv] at hread
  rcases Schema.orNull_cases hread with ⟨rfl, -⟩ | ⟨x, hx, hsome⟩
  · rcases hzero with hwhole | ⟨x, hx, -⟩
    · cases hwhole
    · cases hx
  · have hposition := position_of_isZero hzero (Schema.readBetween_hundred_iff.mp hx).1
    refine ⟨_, rfl, ?_⟩
    rw [hsome]
    exact Binary64.position_divNat_of_zero hposition

end Tools

/-! ## Hundredths of values -/

namespace Host

theorem hundredth_of_whole {v : Value} {n : Int} (h : v.whole? = some n) :
    hundredth v = (Binary64.ofRatio (decide (n < 0)) n.natAbs 100).bounded?.elim (.error .quotientTooLarge)
      fun x => .ok (.real x) := by
  cases v with
  | bool | int =>
    obtain rfl := Option.some.inj h
    rfl
  | _ => cases h

theorem exists_hundredth {v : Value} {n : Int} (h : v.whole? = some n)
    (hbounded : (Binary64.ofRatio (decide (n < 0)) n.natAbs 100).bounded?.isSome = true) :
    ∃ t, hundredth v = .ok t := by
  obtain ⟨x, hx⟩ := Option.isSome_iff_exists.mp hbounded
  rw [hundredth_of_whole h, hx]
  exact ⟨_, rfl⟩

/-- The hundredth of an integer is not too large when it is given. -/
theorem hundredth_whole_eq_ok {v t : Value} {n : Int} (h : v.whole? = some n) (ht : hundredth v = .ok t) :
    t = .real (.ofRatio (decide (n < 0)) n.natAbs 100) := by
  rw [hundredth_of_whole h] at ht
  generalize Binary64.ofRatio (decide (n < 0)) n.natAbs 100 = x at ht ⊢
  cases x with
  | infinite negative => cases ht
  | nan | finite => exact (Except.ok.inj ht).symm

/-- What has a hundredth is a whole number or a double-precision one. -/
theorem whole_or_real_of_hundredth {v t : Value} (ht : hundredth v = .ok t) :
    (∃ n, v.whole? = some n) ∨ ∃ x, v = .real x := by
  cases v with
  | bool | int => exact Or.inl ⟨_, rfl⟩
  | real x => exact Or.inr ⟨x, rfl⟩
  | _ => cases ht

/-- **The hundredth of a temperature lies between zero and one exactly when the temperature is on the scale.** -/
theorem hundredth_inUnit_iff {v t : Value} (ht : hundredth v = .ok t) :
    (∃ x, t = .real x ∧ x.InUnit) ↔ v.InScale := by
  unfold Value.InScale
  rcases whole_or_real_of_hundredth ht with ⟨n, hn⟩ | ⟨x, rfl⟩
  · have hnotReal : ∀ x, v ≠ .real x := by
      rintro x rfl
      cases hn
    simp only [hundredth_whole_eq_ok hn ht, hn, Value.real.injEq, exists_eq_left', Option.some_inj,
      Binary64.inUnit_hundredth_iff, hnotReal, false_and, exists_false, or_false]
  · obtain rfl := Except.ok.inj ht
    simp only [Value.real.injEq, exists_eq_left', Binary64.inUnit_divNat_iff, Value.whole?, reduceCtorEq, false_and,
      exists_false, false_or, exists_and_left]

/-- The hundredth of a zero is a zero. -/
theorem position_of_hundredth {v t : Value} (hzero : v.IsZero) (ht : hundredth v = .ok t) :
    ∃ x, t = .real x ∧ x.position = some 0 := by
  rcases hzero with hwhole | ⟨x, rfl, hx⟩
  · refine ⟨_, hundredth_whole_eq_ok hwhole ht, ?_⟩
    have hlt : Binary64.nearest (0 * one) 100 < Binary64.limit := by
      rw [Nat.zero_mul, Binary64.nearest_zero]
      exact Binary64.limit_pos
    rw [Int.natAbs_zero, Binary64.ofRatio, Binary64.ofUnits_of_lt _ hlt, Binary64.position_finite, Nat.zero_mul,
      Binary64.nearest_zero]
    rfl
  · obtain rfl := Except.ok.inj ht
    exact ⟨_, rfl, Binary64.position_divNat_of_zero hx⟩

end Host

/-! ## What hosts ask -/

/-- What was asked in between is scaled. -/
def Services.Scales (s t : Services) : Prop := ∃ own, t.asked = s.asked ++ own ∧ ∀ prompt ∈ own, prompt.IsScaled

namespace Services.Scales

variable {s t u : Services}

theorem refl (s : Services) : s.Scales s := ⟨[], (List.append_nil _).symm, nofun⟩

theorem trans (h : s.Scales t) (h' : t.Scales u) : s.Scales u := by
  obtain ⟨own, hown, hscaled⟩ := h
  obtain ⟨more, hmore, hscaled'⟩ := h'
  refine ⟨own ++ more, by rw [hmore, hown, List.append_assoc], fun prompt hprompt => ?_⟩
  rcases List.mem_append.mp hprompt with hin | hin
  · exact hscaled prompt hin
  · exact hscaled' prompt hin

/-- When nothing was asked before, all that was asked is scaled. -/
theorem isScaled (h : s.Scales t) (hnone : s.asked = []) : ∀ prompt ∈ t.asked, prompt.IsScaled := by
  obtain ⟨own, hown, hscaled⟩ := h
  rw [hown, hnone]
  exact hscaled

end Services.Scales

namespace Host

variable (host : Host) (conversation : List Message) (user : Value) (assistant : Assistant)

/-- **What a run asks is scaled.** -/
theorem scales_run (w : Workflow) (trace : Trace) (start : String) (context : Context) (s : Services) :
    s.Scales (host.run w trace start context s).walk.state := by
  refine ⟨_, (host.state_run w trace start context s).1, fun prompt hprompt => ?_⟩
  obtain ⟨timed, -, hask⟩ := List.mem_filterMap.mp hprompt
  exact Tools.isScaled_of_asks hask

theorem scales_runManual (w : Workflow) (trigger vars user : Value) (trace : Trace) (s : Services) :
    s.Scales (host.runManual w trigger vars user trace s).services := by
  unfold runManual
  split
  · exact .refl s
  · dsimp only
    split
    · exact host.scales_run _ _ _ _ s
    · exact host.scales_run _ _ _ _ s

theorem scales_tryTriggers (w : Workflow) (nodes : List Node) (trace : Trace) (s : Services) :
    s.Scales (host.tryTriggers w conversation user assistant nodes trace s).services := by
  induction nodes generalizing trace s with
  | nil => exact .refl s
  | cons node nodes ih =>
    unfold tryTriggers
    split
    · exact .refl s
    · dsimp only
      split
      · exact host.scales_run _ _ _ _ s
      · exact host.scales_run _ _ _ _ s
      · exact (host.scales_run _ _ _ _ s).trans (ih _ _)

theorem scales_tryWorkflows (workflows : List Workflow) (trace : Trace) (s : Services) :
    s.Scales (host.tryWorkflows conversation user assistant workflows trace s).services := by
  induction workflows generalizing trace s with
  | nil => exact .refl s
  | cons w workflows ih =>
    unfold tryWorkflows
    split
    · exact ih trace s
    · split
      · exact .refl s
      · dsimp only
        split
        · exact (host.scales_tryTriggers conversation user assistant w _ trace s).trans (ih _ _)
        · exact host.scales_tryTriggers conversation user assistant w _ trace s

/-- A direct question is asked with a hundredth of the assistant's temperature. -/
theorem exists_direct (trace : Trace) (s : Services) :
    ∃ direct : Option Prompt,
      (host.askDirectly conversation assistant trace s).services.asked = s.asked ++ direct.toList ∧
        ∀ prompt ∈ direct, hundredth assistant.temperature = .ok prompt.temperature := by
  unfold askDirectly
  split
  · exact ⟨none, (List.append_nil _).symm, nofun⟩
  · exact ⟨none, (List.append_nil _).symm, nofun⟩
  · rename_i provider prompt hprovider hprompt
    obtain ⟨temperature, htemperature, hmake⟩ := bind_eq_ok_iff.mp hprompt
    refine ⟨some prompt, ?_, fun p hp => ?_⟩
    · dsimp only
      split
      · rfl
      · split <;> rfl
    · obtain rfl := Option.mem_some_iff.mp hp
      rw [htemperature, ← Except.ok.inj hmake]
      rfl

/-- **What a chat turn asks**: its workflows what is scaled, and it may be one direct question behind that. -/
theorem exists_asked_respond (workflows : List Workflow) (history : List Message) (text : Value) (trace : Trace)
    (s : Services) :
    ∃ (own : List Prompt) (direct : Option Prompt),
      (host.respond workflows history text assistant user trace s).services.asked = s.asked ++ own ++ direct.toList ∧
        (∀ prompt ∈ own, prompt.IsScaled) ∧
          ∀ prompt ∈ direct, hundredth assistant.temperature = .ok prompt.temperature := by
  unfold respond
  split
  · exact ⟨[], none, by simp, nofun, nofun⟩
  · rename_i said hsaid
    obtain ⟨own, hown, hscaled⟩ := host.scales_tryWorkflows (history ++ [said]) user assistant workflows trace
      (s.later Message.pace)
    rw [Services.asked_later] at hown
    dsimp only
    split
    · exact ⟨own, none, by rw [hown]; simp, hscaled, nofun⟩
    · exact ⟨own, none, by rw [Services.asked_later, hown]; simp, hscaled, nofun⟩
    · obtain ⟨direct, hdirect, htemperature⟩ := host.exists_direct (history ++ [said]) assistant
        (host.tryWorkflows (history ++ [said]) user assistant workflows trace (s.later Message.pace)).trace
        (host.tryWorkflows (history ++ [said]) user assistant workflows trace (s.later Message.pace)).services
      exact ⟨own, direct, by rw [← hown]; exact hdirect, hscaled, htemperature⟩

/-- All that a chat turn asks is scaled when the assistant's temperature is on the scale. -/
theorem scales_respond {assistant : Assistant} (h : assistant.temperature.InScale) (workflows : List Workflow)
    (history : List Message) (text : Value) (trace : Trace) (s : Services) :
    s.Scales (host.respond workflows history text assistant user trace s).services := by
  obtain ⟨own, direct, hasked, hscaled, hdirect⟩ :=
    host.exists_asked_respond user assistant workflows history text trace s
  rw [List.append_assoc] at hasked
  refine ⟨_, hasked, fun prompt hprompt => ?_⟩
  rcases List.mem_append.mp hprompt with hin | hin
  · exact hscaled prompt hin
  · exact (hundredth_inUnit_iff (hdirect prompt (Option.mem_toList.mp hin))).mpr h

/-- Without workflows, what a chat turn asks is the direct question. -/
theorem asked_respond_alone {text : Value} {provider : Provider} {said : Message} {temperature : Value} {s : Services}
    (hprovider : host.provider = some provider) (hsaid : host.message s .user text = .ok said)
    (htemperature : hundredth assistant.temperature = .ok temperature) (history : List Message) (trace : Trace) :
    ∃ prompt, (host.respond [] history text assistant user trace s).services.asked = s.asked ++ [prompt] ∧
      prompt.temperature = temperature := by
  obtain ⟨prompt, hprompt, htold⟩ : ∃ prompt, host.directPrompt (history ++ [said]) assistant = .ok prompt ∧
      prompt.temperature = temperature := by
    rw [directPrompt, htemperature]
    exact ⟨_, rfl, rfl⟩
  refine ⟨prompt, ?_, htold⟩
  have hdirect : (host.askDirectly (history ++ [said]) assistant trace (s.later Message.pace)).services.asked =
      s.asked ++ [prompt] := by
    unfold askDirectly
    rw [hprovider, hprompt]
    dsimp only
    split
    · rfl
    · split <;> rfl
  rw [respond, hsaid]
  exact hdirect

end Host

end Chatflow
