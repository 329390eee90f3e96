import TickScript.Proofs.CommandLine.HexText
import TickScript.Proofs.Eval.Powers
import TickScript.Proofs.Scene
import TickScript.CommandLine.Run

/-! # Evaluation on the command line

    A run that evaluates code loads its settings, and then evaluates in the order of powers that
    its flag chooses.  The settings have no part in this (`run_evaluation`): neither the order that
    they set, nor anything else.

    So code is evaluated in the current order unless the flag is given, also where the settings
    demand the legacy order.  That makes no difference to code that meets no power that depends
    on the order (`evaluation_ignores_settings`).
-/

namespace TickScript.CommandLine

/-! ## Expressions on their own -/

/-- What code of the command line reads: powers are computed in this order. -/
def scratchContext (order : PowOrder) : EvalContext := ⟨.empty, .empty, order⟩

/-- What code of the command line acts on: two players, and no operands. -/
def scratchBench (profile : Bool) : Bench := ⟨[], if profile then .on else .off, twoPlayers.1⟩

/-- What is shown of the end of an evaluation. -/
def shown : EStateM.Result Fault Bench Value → Except Failure String
  | .error f _ => .error (.plain ("evaluation failed: " ++ f.message))
  | .ok v b => .ok (v.text ++ "\n" ++ if b.profile.enabled then b.profile.report else "")

/-- **What code comes to in this order.** -/
def comesTo (order : PowOrder) (profile : Bool) (code : Expression) : Except Failure String :=
  shown <| Eval.eval (scratchContext order) Machine.ampleBudget code twoPlayers.2
    (scratchBench profile)

/-- What a text of code comes to. -/
def textComesTo (order : PowOrder) (profile : Bool) (text : String) : Except Failure String :=
  match HexText.parse text with
  | .error f => .error (.plain f.message)
  | .ok code => comesTo order profile code

/-- **What code meets.** -/
def encounters (code : Expression) (profile : Bool) : List Encounter :=
  Eval.encounters (scratchContext .current) Machine.ampleBudget code twoPlayers.2
    (scratchBench profile)

/-- The order that the flag chooses. -/
def flagOrder (legacyPow : Bool) : PowOrder := if legacyPow then .legacy else .current

/-- Of the scene that is left nothing is shown but its profile. -/
theorem shown_onEnd (s : Scene) (r : EStateM.Result Fault Bench Value) :
    (match onEnd s.withBench r with
      | .error f _ => Except.error (Failure.plain ("evaluation failed: " ++ f.message))
      | .ok v t => .ok (v.text ++ "\n" ++
          if t.machine.profile.enabled then t.machine.profile.report else "")) = shown r := by
  cases r <;> rfl

/-- **The machine takes nothing from the settings** that shows in a value. -/
theorem evaluate_machine (settings : Settings) (dataDir : Option String)
    (legacyPow profile : Bool) (text : String) :
    evaluate (machine settings dataDir legacyPow profile) text =
      textComesTo (flagOrder legacyPow) profile text := by
  unfold evaluate textComesTo
  cases HexText.parse text with
  | error f => rfl
  | ok code =>
    dsimp only [bind, Except.bind, Except.mapError]
    rw [evaluate_eq]
    exact shown_onEnd _ _

/-- Code that meets settled powers only comes to the same in both orders. -/
theorem comesTo_legacy {code : Expression} {profile : Bool}
    (settled : ∀ e ∈ encounters code profile, e.Settled) :
    comesTo .legacy profile code = comesTo .current profile code := by
  have same := Eval.eval_inOrder .legacy twoPlayers.2 settled
  have context : (scratchContext .current).inOrder .legacy = scratchContext .legacy := rfl
  rw [context] at same
  unfold comesTo
  rw [same]

/-! ## Runs -/

variable {m : Type → Type} [Monad m]

/-- **Evaluation behind the settings**: they are loaded, and only a fault in them matters. -/
def evaluateIn (host : Host m) (file : Option String) (order : PowOrder) (profile : Bool)
    (text : String) : m Outcome := do
  match ← loadSettings host file with
  | .error f => return .ofResult (.error f)
  | .ok _ => return .ofResult (textComesTo order profile text)

variable [LawfulMonad m] {host : Host m} {args args' : List String} {file : Option String}
  {text : String} {profile : Bool}

/-- **What a run that evaluates code does.** -/
theorem run_evaluation {legacyPow : Bool}
    (asked : parse host.settingsFile args = .ok ⟨file, .evaluate text legacyPow profile⟩) :
    run host args = evaluateIn host file (flagOrder legacyPow) profile text := by
  unfold run evaluateIn
  rw [asked]
  refine congrArg (loadSettings host file >>= ·) (funext fun loaded => ?_)
  cases loaded with
  | error f => rfl
  | ok loaded => simp only [answer, pure_bind, evaluate_machine]

/-- **Evaluation takes its order from the flag alone**, whatever the settings say.  Without the
    flag it is the current order, with it the legacy one, and both runs have the same outcome if
    the code meets no power that depends on the order. -/
theorem evaluation_ignores_settings
    (plain : parse host.settingsFile args = .ok ⟨file, .evaluate text false profile⟩)
    (flagged : parse host.settingsFile args' = .ok ⟨file, .evaluate text true profile⟩) :
    run host args = evaluateIn host file .current profile text ∧
    run host args' = evaluateIn host file .legacy profile text ∧
    ((∀ code, HexText.parse text = .ok code → ∀ e ∈ encounters code profile, e.Settled) →
      run host args = run host args') := by
  have inCurrent := run_evaluation plain
  have inLegacy := run_evaluation flagged
  refine ⟨inCurrent, inLegacy, fun settled => ?_⟩
  have same : textComesTo .legacy profile text = textComesTo .current profile text := by
    unfold textComesTo
    cases read : HexText.parse text with
    | error f => rfl
    | ok code => exact comesTo_legacy (settled code read)
  rw [inCurrent, inLegacy, evaluateIn, evaluateIn]
  simp only [flagOrder, same, Bool.false_eq_true, if_false, if_true]

/-- A host without files, whose environment may set the order of powers. -/
def bareHost (powBitOrder : Option String) : Host Id where
  files := ⟨fun _ => .error .notFound, fun _ => false⟩
  settingsFile := none
  overrides := { Overrides.none with powBitOrder := powBitOrder }
  dataDir := none
  workingDir := "/"

/-- Two to the tenth, whose bits below the highest one are a palindrome. -/
theorem evaluation_ignores_settings_palindrome :
    let host := bareHost (some "legacy")
    parse host.settingsFile ["eval", "0102010a25"] =
      .ok ⟨none, .evaluate "0102010a25" false false⟩ ∧
    parse host.settingsFile ["eval", "--legacy-pow", "0102010a25"] =
      .ok ⟨none, .evaluate "0102010a25" true false⟩ ∧
    run host ["eval", "0102010a25"] = run host ["eval", "--legacy-pow", "0102010a25"] := by
  intro host
  have plain : parse host.settingsFile ["eval", "0102010a25"] =
      .ok ⟨none, .evaluate "0102010a25" false false⟩ := by rfl
  have flagged : parse host.settingsFile ["eval", "--legacy-pow", "0102010a25"] =
      .ok ⟨none, .evaluate "0102010a25" true false⟩ := by rfl
  have read : HexText.parse "0102010a25" = .ok [0x01, 0x02, 0x01, 0x0a, 0x25] :=
    HexText.parse_eq_ok_iff.mpr (by decide +kernel)
  have met : (encounters [0x01, 0x02, 0x01, 0x0a, 0x25] false).all (·.Settled) = true := by
    decide +kernel
  obtain ⟨-, -, same⟩ := evaluation_ignores_settings plain flagged
  refine ⟨plain, flagged, same fun code spelled => ?_⟩
  cases read.symm.trans spelled
  simpa only [List.all_eq_true, decide_eq_true_eq] using met

/-- The environment asks for the legacy order, in which two to the eleventh is another number;
    it is evaluated in the current one. -/
theorem legacy_setting_ignored :
    let host := bareHost (some "legacy")
    (loadSettings host none).toOption.map (·.settings.powBitOrder) = some .legacy ∧
    (run host ["eval", "0102010b25"]).run = ⟨0, "2048\n", ""⟩ ∧
    (run host ["eval", "--legacy-pow", "0102010b25"]).run = ⟨0, "16384\n", ""⟩ := by
  decide +kernel

end TickScript.CommandLine
