import EquityGuard.ChainObservation
import EquityGuard.ClientDeployment
import EquityGuard.GuardedTransfer
import EquityGuard.PlanRuns

/-!
The executor of plans, and any number of its executions at once: each is interrupted
where it awaits, and others, or other calls of the protocol, run in between.
-/
namespace EquityGuard.Executor
open EquityGuard.Addresses EquityGuard.Bytes EquityGuard.Canonical EquityGuard.ChainObservation EquityGuard.Client
open EquityGuard.ClientAbi EquityGuard.ClientDeployment EquityGuard.ClientMintState EquityGuard.Compare EquityGuard.Errors
open EquityGuard.Failures EquityGuard.GuardedTransfer EquityGuard.Hex EquityGuard.JsonText EquityGuard.JsValue EquityGuard.Kit
open EquityGuard.Plans EquityGuard.Quotes EquityGuard.Records EquityGuard.Representations EquityGuard.Runs
open EquityGuard.ClientJupiter (buyer)
open EquityGuard.Execution (onMint quoteFor observedPolicy equalComparison ReroutedTrade)
open EquityGuard.PlanAtomicity (strings)

inductive ExecutorFailure where
  | plan (failure : Failure)
  | client (error : JsError)
  | Error (message : String)
  | DevnetConfigError (message : String)
  | DevnetDemoEnvironmentError (message : String)

structure TestAsset where
  mint : Address
  decimals : Numeric
/-- A context, and whether it is one that `connectDevnet` made. -/
structure DevnetContext where
  payer : Address
  verified : Bool
structure PlanInput where
  programId : Address
  plan : Nat
  quote : QuoteIdentity
  comparison : Option QuoteComparison
  asset : TestAsset
  recipient : Address
  policy : TransitionPolicy

/-! ### The token library -/

structure TransferCheckedInput where
  source : Address
  mint : Address
  destination : Address
  authority : Address
  amount : Int
  decimals : Numeric
/-- What is used of `@solana-program/token-2022`. Where its functions throw, here they give nothing. -/
structure TokenLibrary where
  /-- For the accounts of the Token-2022 program. -/
  findAssociatedTokenPda : (owner mint : Address) → Option Address
  getCreateAssociatedTokenIdempotentInstructionAsync : (payer owner mint : Address) → Option Kit.Instruction
  getTransferCheckedInstruction : TransferCheckedInput → Option Kit.Instruction
/-- The layout of a `TransferChecked`: an amount that is a `u64` and decimals that are a byte, or it throws. -/
structure TokenLibrary.Documented (library : TokenLibrary) : Prop where
  program : ∀ input instruction, library.getTransferCheckedInstruction input = some instruction →
    instruction.programAddress = TOKEN_2022_PROGRAM_ADDRESS
  accounts : ∀ input instruction, library.getTransferCheckedInstruction input = some instruction →
    instruction.accounts.map Kit.AccountMeta.address = [input.source, input.mint, input.destination, input.authority]
  data : ∀ input instruction, library.getTransferCheckedInstruction input = some instruction →
    ∃ (amount : UInt64) (decimals : UInt8), input.amount = amount.toNat ∧
      instruction.data = TRANSFER_CHECKED_TAG :: (leBytes 8 amount.toNat ++ [decimals])

/-- Everything the executor is given by its platform. -/
structure Setting where
  realm : Realm
  sha256Hex : Text → Text
  sha256 : List UInt8 → Chunk 32
  library : TokenLibrary

/-! ### One execution -/

structure GuardedDelivery extends GuardedTransferChecked where
  downstream : Value

section
variable (setting : Setting)

/-- `[create recipient ATA, guard v2(asset), transferChecked(asset)]`. -/
def guardedDeliveryInstructions (programId payer recipient : Address) (asset : TestAsset) (boundState : EconomicState)
    (policy : TransitionPolicy) (amount : Int) : Except ExecutorFailure GuardedDelivery := do
  refuse_if (boundState.mint ≠ text asset.mint.text) (.Error "bound state is for a different mint than the delivered asset")
  refuse_if (¬ Numeric.strictEq boundState.decimals asset.decimals)
    (.Error "bound state decimals differ from the delivered asset")
  let source ← ok_or (.client .SolanaError) (setting.library.findAssociatedTokenPda payer asset.mint)
  let destination ← ok_or (.client .SolanaError) (setting.library.findAssociatedTokenPda recipient asset.mint)
  let create ← ok_or (.client .SolanaError)
    (setting.library.getCreateAssociatedTokenIdempotentInstructionAsync payer recipient asset.mint)
  let transferChecked ← ok_or (.client .SolanaError) (setting.library.getTransferCheckedInstruction {
    source, mint := asset.mint, destination, authority := payer, amount, decimals := asset.decimals })
  let guarded ← (buildGuardedTransferChecked setting.sha256 programId payer asset.mint (deliveryExpectation boundState policy)
    transferChecked [create]).mapError .client
  return { guarded with downstream := record [
    ("adapterKind", .string TRANSFER_CHECKED),
    ("commitmentHex", .string (toHex guarded.commitment))] }
def requireDevnet (ctx : DevnetContext) (programId : Address) : Except ExecutorFailure Unit := do
  refuse_if (ctx.verified = false) (.DevnetConfigError "not a verified devnet context: signing contexts can only come from connectDevnet")
  refuse_if (programId ≠ EQUITY_GUARD_DEVNET_PROGRAM_ID)
    (.DevnetDemoEnvironmentError "deployment is not the pinned devnet program")
def PlanInput.presented (input : PlanInput) : Presented := ⟨input.quote, input.comparison⟩
/-- Step 1 of `executeGuardedPlan`: everything before its first await. -/
def accept (registry : Registry) (ctx : DevnetContext) (input : PlanInput) : Except ExecutorFailure ExecutionPlan := do
  (verifyExecutionPlan setting.realm setting.sha256Hex registry input.plan input.presented).mapError .plan
  -- A plan that was verified is one that was issued.
  let plan ← ok_or (.plan (planError .PLAN_NOT_ISSUED ["execution plans can only come from createExecutionPlan"]))
    registry.issuedPlans[input.plan]?
  (assertPlanPolicy plan input.policy).mapError .plan
  requireDevnet ctx input.programId
  refuse_if (plan.selectedRepresentation.mint ≠ text input.asset.mint.text ∨
      ¬ Numeric.strictEq plan.economicState.decimals input.asset.decimals)
    (.DevnetDemoEnvironmentError "execution asset differs from the plan's selected representation")
  return plan
/-- Step 2: the exact delivery, from the plan. -/
def deliver (ctx : DevnetContext) (input : PlanInput) (plan : ExecutionPlan) : Except ExecutorFailure GuardedDelivery :=
  guardedDeliveryInstructions setting input.programId ctx.payer input.recipient input.asset plan.economicState plan.policy
    plan.expectedOutputRaw
/-- Step 3: the delivery is the planned action, and the plan is marked consumed. Nothing is awaited in between. -/
def commit (registry : Registry) (input : PlanInput) (plan : ExecutionPlan) (delivery : GuardedDelivery) :
    Except ExecutorFailure Registry := do
  (assertPlanDownstream setting.realm plan delivery.downstream).mapError .plan
  (consumeExecutionPlan setting.realm setting.sha256Hex registry input.plan input.presented).mapError .plan
end

/-! ### Executions at once -/

/-- Where an execution stands: what it waits for, or how it ended. -/
inductive Phase where
  | building
  | built (delivery : GuardedDelivery)
  | consumed (delivery : GuardedDelivery)
  | fresh (delivery : GuardedDelivery)
  | submitted
  | failed
structure Execution where
  ctx : DevnetContext
  input : PlanInput
  plan : ExecutionPlan
  phase : Phase
structure System where
  world : PlanRuns.World
  executions : List Execution

inductive Act where
  | protocol (event : PlanRuns.Event)
  | started (number : Nat)
  | refused (failure : ExecutorFailure)
  | built (number : Nat)
  | consumed (number plan : Nat)
  | slotRead (number : Nat) (slot : Int)
  | submitted (number plan : Nat) (delivery : GuardedDelivery)
  | failed (number : Nat)
def Act.submits : Act → Option Nat
  | .submitted _ plan _ => some plan
  | _ => none

def System.withRegistry (system : System) (registry : Registry) : System :=
  { system with world := { system.world with registry } }
def System.advance (system : System) (number : Nat) (execution : Execution) (phase : Phase) : System :=
  { system with executions := system.executions.set number { execution with phase } }
def Initial (system : System) : Prop := PlanRuns.Initial system.world ∧ system.executions = []

/-- One execution goes on to its next await, a new one is started, or the protocol is called elsewhere.
    Every await can be rejected. -/
inductive Step (setting : Setting) (system : System) : Act → System → Prop where
  | protocol {event : PlanRuns.Event} {world : PlanRuns.World}
      (step : PlanRuns.Step setting.realm setting.sha256Hex system.world event world) :
    Step setting system (.protocol event) { system with world }
  | started {ctx : DevnetContext} {input : PlanInput} {plan : ExecutionPlan}
      (passed : accept setting system.world.registry ctx input = .ok plan) :
    Step setting system (.started system.executions.length)
      { system with executions := system.executions ++ [⟨ctx, input, plan, .building⟩] }
  | refused {ctx : DevnetContext} {input : PlanInput} {failure : ExecutorFailure}
      (threw : accept setting system.world.registry ctx input = .error failure) : Step setting system (.refused failure) system
  | built {number : Nat} {execution : Execution} {delivery : GuardedDelivery}
      (found : system.executions[number]? = some execution) (waiting : execution.phase = .building)
      (returned : deliver setting execution.ctx execution.input execution.plan = .ok delivery) :
    Step setting system (.built number) (system.advance number execution (.built delivery))
  | consumed {number : Nat} {execution : Execution} {delivery : GuardedDelivery} {registry : Registry}
      (found : system.executions[number]? = some execution) (waiting : execution.phase = .built delivery)
      (passed : commit setting system.world.registry execution.input execution.plan delivery = .ok registry) :
    Step setting system (.consumed number execution.input.plan)
      ((system.advance number execution (.consumed delivery)).withRegistry registry)
  | slotRead {number : Nat} {execution : Execution} {delivery : GuardedDelivery} {slot : Int}
      (found : system.executions[number]? = some execution) (waiting : execution.phase = .consumed delivery)
      (passed : assertPlanFresh execution.plan slot = .ok ()) :
    Step setting system (.slotRead number slot) (system.advance number execution (.fresh delivery))
  | submitted {number : Nat} {execution : Execution} {delivery : GuardedDelivery}
      (found : system.executions[number]? = some execution) (waiting : execution.phase = .fresh delivery) :
    Step setting system (.submitted number execution.input.plan delivery) (system.advance number execution .submitted)
  | failed {number : Nat} {execution : Execution} (found : system.executions[number]? = some execution)
      (unsettled : execution.phase ≠ .submitted) :
    Step setting system (.failed number) (system.advance number execution .failed)

/-! ### At most one execution holds a plan -/

/-- Whether an execution has consumed its plan and did not fail since. -/
def Phase.holds : Phase → Prop
  | .consumed _ | .fresh _ | .submitted => True
  | _ => False
structure Exclusive (system : System) : Prop where
  consumed : ∀ (number : Nat) (execution : Execution), system.executions[number]? = some execution → execution.phase.holds →
    execution.input.plan ∈ system.world.registry.consumedPlans
  once : ∀ (left right : Nat) (first second : Execution), system.executions[left]? = some first →
    system.executions[right]? = some second → first.phase.holds → second.phase.holds → first.input.plan = second.input.plan → left = right

section
variable {setting : Setting} {system after : System} {act : Act} {acts : List Act}

theorem advance_found {number other : Nat} {execution found : Execution} {phase : Phase}
    (lookup : (system.advance number execution phase).executions[other]? = some found) :
    (other = number ∧ found = { execution with phase }) ∨ (other ≠ number ∧ system.executions[other]? = some found) :=
  found_set lookup
theorem advance_self {number : Nat} {execution : Execution} {phase : Phase}
    (found : system.executions[number]? = some execution) :
    (system.advance number execution phase).executions[number]? = some { execution with phase } := by
  obtain ⟨bound, _⟩ := List.getElem?_eq_some_iff.mp found
  rw [System.advance, List.getElem?_set_self bound]

/-- A phase that holds no more than the last one keeps plans apart. -/
theorem Exclusive.advance {number : Nat} {execution : Execution} {phase : Phase} (exclusive : Exclusive system)
    (found : system.executions[number]? = some execution) (weaker : phase.holds → execution.phase.holds) :
    Exclusive (system.advance number execution phase) where
  consumed := by
    intro other holder lookup holds
    obtain ⟨rfl, rfl⟩ | ⟨_, kept⟩ := advance_found lookup
    · exact exclusive.consumed other execution found (weaker holds)
    · exact exclusive.consumed _ _ kept holds
  once := by
    intro left right first second leftLookup rightLookup firstHolds secondHolds same
    obtain ⟨rfl, rfl⟩ | ⟨_, leftKept⟩ := advance_found leftLookup <;>
    obtain ⟨rfl, rfl⟩ | ⟨_, rightKept⟩ := advance_found rightLookup
    · rfl
    · exact exclusive.once _ _ _ _ found rightKept (weaker firstHolds) secondHolds same
    · exact exclusive.once _ _ _ _ leftKept found firstHolds (weaker secondHolds) same
    · exact exclusive.once _ _ _ _ leftKept rightKept firstHolds secondHolds same
theorem commit_eq_ok {registry after : Registry} {input : PlanInput} {plan : ExecutionPlan} {delivery : GuardedDelivery}
    (passed : commit setting registry input plan delivery = .ok after) :
    assertPlanDownstream setting.realm plan delivery.downstream = .ok () ∧ input.plan ∉ registry.consumedPlans ∧
      after = { registry with consumedPlans := input.plan :: registry.consumedPlans } := by
  unfold commit at passed
  obtain ⟨downstream, consumed⟩ := then_eq_ok.mp passed
  obtain ⟨_, _, unused, rfl⟩ := PlanRuns.consumeExecutionPlan_eq_ok (mapError_eq_ok.mp consumed)
  exact ⟨mapError_eq_ok.mp downstream, unused, rfl⟩
theorem Exclusive.step (exclusive : Exclusive system) (step : Step setting system act after) : Exclusive after := by
  cases step with
  | protocol step =>
    refine ⟨?_, exclusive.once⟩
    intro number execution found holds
    exact PlanRuns.consumes_oneShot.kept step (exclusive.consumed _ _ found holds)
  | @started ctx input plan passed =>
    have earlier {number : Nat} {execution : Execution}
        (found : (system.executions ++ [⟨ctx, input, plan, .building⟩])[number]? = some execution)
        (holds : execution.phase.holds) : system.executions[number]? = some execution := by
      obtain earlier | ⟨_, rfl⟩ := found_append found
      · exact earlier
      · cases holds
    refine ⟨?_, ?_⟩
    · intro number execution found holds
      exact exclusive.consumed _ _ (earlier found holds) holds
    · intro left right first second leftFound rightFound firstHolds secondHolds same
      exact exclusive.once _ _ _ _ (earlier leftFound firstHolds) (earlier rightFound secondHolds) firstHolds secondHolds same
  | refused threw => exact exclusive
  | built found waiting returned => exact exclusive.advance found False.elim
  | @consumed number execution delivery registry found waiting passed =>
    obtain ⟨_, unused, rfl⟩ := commit_eq_ok passed
    -- Nobody held this plan, as it was not consumed.
    have others {other : Nat} {holder : Execution} (lookup : system.executions[other]? = some holder)
        (holds : holder.phase.holds) : execution.input.plan ≠ holder.input.plan := by
      intro same
      rw [same] at unused
      exact unused (exclusive.consumed _ _ lookup holds)
    refine ⟨?_, ?_⟩
    · intro other holder lookup holds
      obtain ⟨rfl, rfl⟩ | ⟨_, kept⟩ := advance_found lookup
      · exact List.mem_cons_self
      · exact List.mem_cons_of_mem _ (exclusive.consumed _ _ kept holds)
    · intro left right first second leftLookup rightLookup firstHolds secondHolds same
      obtain ⟨rfl, rfl⟩ | ⟨_, leftKept⟩ := advance_found leftLookup <;>
      obtain ⟨rfl, rfl⟩ | ⟨_, rightKept⟩ := advance_found rightLookup
      · rfl
      · exact absurd same (others rightKept secondHolds)
      · exact absurd same.symm (others leftKept firstHolds)
      · exact exclusive.once _ _ _ _ leftKept rightKept firstHolds secondHolds same
  | slotRead found waiting passed => exact exclusive.advance found (fun _ => by rw [waiting]; trivial)
  | submitted found waiting => exact exclusive.advance found (fun _ => by rw [waiting]; trivial)
  | failed found unsettled => exact exclusive.advance found False.elim
theorem exclusive_of_initial (fresh : Initial system) : Exclusive system := by
  obtain ⟨_, none⟩ := fresh
  refine ⟨?_, ?_⟩
  · intro number execution found
    simp [none] at found
  · intro left right first second found
    simp [none] at found

/-- A submission finds its plan unsubmitted, and marks it. -/
theorem submits_oneShot : OneShot (fun before act after => Exclusive before ∧ Step setting before act after)
    (fun act plan => act.submits = some plan)
    (fun system plan => ∃ (number : Nat) (execution : Execution), system.executions[number]? = some execution ∧
      execution.phase = .submitted ∧ execution.input.plan = plan) where
  fresh := by
    rintro before act after plan ⟨exclusive, step⟩ submits ⟨number, execution, found, submitted, rfl⟩
    cases step with
    | @submitted other holder delivery lookup waiting =>
      have same := exclusive.once other number holder execution lookup found (by rw [waiting]; trivial)
        (by rw [submitted]; trivial) (Option.some.inj submits)
      subst same
      cases lookup.symm.trans found
      rw [waiting] at submitted
      cases submitted
    | _ => cases submits
  marked := by
    rintro before act after plan ⟨exclusive, step⟩ submits
    cases step with
    | @submitted number execution delivery found waiting =>
      cases submits
      exact ⟨number, _, advance_self found, rfl, rfl⟩
    | _ => cases submits
  kept := by
    rintro before act after plan ⟨exclusive, step⟩ ⟨number, execution, found, submitted, rfl⟩
    have other {moved : Nat} {mover : Execution} {phase : Phase} (lookup : before.executions[moved]? = some mover)
        (unsettled : mover.phase ≠ .submitted) :
        (before.advance moved mover phase).executions[number]? = some execution := by
      have apart : moved ≠ number := by
        rintro rfl
        cases lookup.symm.trans found
        exact unsettled submitted
      rw [System.advance, List.getElem?_set_ne apart]
      exact found
    cases step with
    | protocol step => exact ⟨number, execution, found, submitted, rfl⟩
    | started passed =>
      obtain ⟨bound, _⟩ := List.getElem?_eq_some_iff.mp found
      refine ⟨number, execution, ?_, submitted, rfl⟩
      dsimp only
      rw [List.getElem?_append_left bound]
      exact found
    | refused threw => exact ⟨number, execution, found, submitted, rfl⟩
    | built lookup waiting returned => exact ⟨number, execution, other lookup (by simp [waiting]), submitted, rfl⟩
    | consumed lookup waiting passed => exact ⟨number, execution, other lookup (by simp [waiting]), submitted, rfl⟩
    | slotRead lookup waiting passed => exact ⟨number, execution, other lookup (by simp [waiting]), submitted, rfl⟩
    | submitted lookup waiting => exact ⟨number, execution, other lookup (by simp [waiting]), submitted, rfl⟩
    | failed lookup unsettled => exact ⟨number, execution, other lookup unsettled, submitted, rfl⟩

/-! ### What is delivered -/

/-- A delivery is the planned action: the transfer of the planned amount of the planned mint, after a guard that
    commits to it and expects the planned state under the planned policy. -/
structure Delivers (setting : Setting) (payer : Address) (plan : ExecutionPlan) (mint : Address) (commitment : List UInt8)
    (delivery : GuardedDelivery) : Prop where
  selected : plan.selectedRepresentation.mint = text mint.text
  bound : plan.economicState.mint = text mint.text
  instructions : ∃ create, delivery.instructions = [create, delivery.guard, delivery.transferChecked]
  program : delivery.transferChecked.programAddress = TOKEN_2022_PROGRAM_ADDRESS
  transferred : delivery.transferChecked.accounts[1]?.map Kit.AccountMeta.address = some mint
  amount : ∃ (amount : UInt64) (decimals : UInt8), plan.expectedOutputRaw = amount.toNat ∧
    delivery.transferChecked.data = TRANSFER_CHECKED_TAG :: (leBytes 8 amount.toNat ++ [decimals])
  committed : downstreamCommitment setting.sha256
    (asCommittedInstruction delivery.transferChecked delivery.instructions payer) = .ok commitment
  planned : plan.downstream.get "commitmentHex" = .string (toHex commitment)
  guard : delivery.guard.programAddress = EQUITY_GUARD_DEVNET_PROGRAM_ID
  expects : Expects delivery.guard mint (deliveryExpectation plan.economicState plan.policy) commitment

def transferNames : List String := ["adapterKind", "commitmentHex"]
theorem transfer_planned {plan : ExecutionPlan} {realm : Realm} {hex : Text}
    (passed : assertPlanDownstream realm plan (record [("adapterKind", .string TRANSFER_CHECKED),
      ("commitmentHex", .string hex)]) = .ok ()) : plan.downstream.get "commitmentHex" = .string hex := by
  have distinct : (transferNames.map text).Nodup := by decide
  have adapter : (record [("adapterKind", .string TRANSFER_CHECKED), ("commitmentHex", .string hex)]).get "adapterKind" =
      .string TRANSFER_CHECKED := @record_get_of_mem transferNames _ rfl distinct _ _ (by simp)
  have commitment : (record [("adapterKind", .string TRANSFER_CHECKED), ("commitmentHex", .string hex)]).get
      "commitmentHex" = .string hex := @record_get_of_mem transferNames _ rfl distinct _ _ (by simp)
  unfold assertPlanDownstream at passed
  obtain ⟨_, _, passed⟩ := bind_eq_ok.mp passed
  obtain ⟨_, passed⟩ := then_eq_ok.mp passed
  obtain ⟨actualKey, actual, passed⟩ := bind_eq_ok.mp passed
  obtain ⟨plannedKey, planned, passed⟩ := bind_eq_ok.mp passed
  rw [refuse_if_eq_ok, not_not] at passed
  subst passed
  rw [canonicalDownstream, if_pos (by simp [adapter, isString])] at actual
  simp only [List.map_cons, List.map_nil, adapter, commitment] at actual
  have same := same_of_keyOf actual planned
  obtain ⟨fields, shape⟩ : ∃ fields, plan.downstream = .object fields := by
    cases found : plan.downstream <;> rw [found] at same <;> cases same
    exact ⟨_, rfl⟩
  rw [shape] at same
  obtain ⟨other, found, equal⟩ := same_lookup same (record_keys rfl ▸ distinct)
    (List.mem_map.mpr ⟨("commitmentHex", .string hex), by simp, rfl⟩)
  cases equal
  rw [shape, Value.get, Value.fields, found]
  rfl
theorem deliver_eq_ok (documented : setting.library.Documented) {ctx : DevnetContext} {input : PlanInput}
    {plan : ExecutionPlan} {delivery : GuardedDelivery} (returned : deliver setting ctx input plan = .ok delivery)
    (mint : plan.selectedRepresentation.mint = text input.asset.mint.text)
    (program : input.programId = EQUITY_GUARD_DEVNET_PROGRAM_ID)
    (downstream : assertPlanDownstream setting.realm plan delivery.downstream = .ok ()) :
    ∃ commitment, Delivers setting ctx.payer plan input.asset.mint commitment delivery := by
  unfold deliver guardedDeliveryInstructions at returned
  obtain ⟨bound, returned⟩ := then_eq_ok.mp returned
  obtain ⟨_, returned⟩ := then_eq_ok.mp returned
  obtain ⟨source, _, returned⟩ := bind_eq_ok.mp returned
  obtain ⟨destination, _, returned⟩ := bind_eq_ok.mp returned
  obtain ⟨create, _, returned⟩ := bind_eq_ok.mp returned
  obtain ⟨transferChecked, transferred, returned⟩ := bind_eq_ok.mp returned
  obtain ⟨guarded, built, returned⟩ := bind_eq_ok.mp returned
  cases returned
  rw [refuse_if_eq_ok, not_not] at bound
  have transferred := ok_or_eq_ok.mp transferred
  have guards := buildGuardedTransferChecked_eq_ok (mapError_eq_ok.mp built)
  have accounts := documented.accounts _ _ transferred
  refine ⟨guarded.commitment, ?_⟩
  exact {
    selected := mint
    bound
    instructions := ⟨create, by rw [guards.instructions, guards.transfer]; rfl⟩
    program := by
      rw [guards.transfer]
      exact documented.program _ _ transferred
    transferred := by
      rw [guards.transfer, ← List.getElem?_map, accounts]
      rfl
    amount := by
      rw [guards.transfer]
      exact documented.data _ _ transferred
    committed := by
      have hashed := guards.commitment
      rw [guards.committed] at hashed
      rw [guards.transfer]
      exact hashed
    planned := transfer_planned downstream
    guard := guards.program.trans program
    expects := guards.expects }

/-! ### How an execution got where it stands -/

/-- What happened before an execution came to a phase. -/
def Reached (setting : Setting) (acts : List Act) (number : Nat) (execution : Execution) : Phase → Prop
  | .built delivery => deliver setting execution.ctx execution.input execution.plan = .ok delivery
  | .consumed delivery => deliver setting execution.ctx execution.input execution.plan = .ok delivery ∧
      assertPlanDownstream setting.realm execution.plan delivery.downstream = .ok () ∧
      ∃ later earlier, acts = later ++ .consumed number execution.input.plan :: earlier
  | .fresh delivery => deliver setting execution.ctx execution.input execution.plan = .ok delivery ∧
      assertPlanDownstream setting.realm execution.plan delivery.downstream = .ok () ∧
      ∃ slot later between earlier,
        acts = later ++ .slotRead number slot :: (between ++ .consumed number execution.input.plan :: earlier) ∧
        slot ≤ execution.plan.expiresAtSlot
  | _ => True
structure Justified (setting : Setting) (acts : List Act) (registry : Registry) (number : Nat) (execution : Execution) :
    Prop where
  issued : registry.issuedPlans[execution.input.plan]? = some execution.plan
  mint : execution.plan.selectedRepresentation.mint = text execution.input.asset.mint.text
  program : execution.input.programId = EQUITY_GUARD_DEVNET_PROGRAM_ID
  reached : Reached setting acts number execution execution.phase
def Known (setting : Setting) (acts : List Act) (system : System) : Prop :=
  ∀ number execution, system.executions[number]? = some execution →
    Justified setting acts system.world.registry number execution

theorem Reached.later {number : Nat} {execution : Execution} {phase : Phase}
    (reached : Reached setting acts number execution phase) : Reached setting (act :: acts) number execution phase := by
  cases phase with
  | consumed delivery =>
    obtain ⟨returned, downstream, later, earlier, rfl⟩ := reached
    exact ⟨returned, downstream, act :: later, earlier, rfl⟩
  | fresh delivery =>
    obtain ⟨returned, downstream, slot, later, between, earlier, rfl, fresh⟩ := reached
    exact ⟨returned, downstream, slot, act :: later, between, earlier, rfl, fresh⟩
  | _ => exact reached
theorem Justified.later {registry following : Registry} {number : Nat} {execution : Execution}
    (justified : Justified setting acts registry number execution)
    (kept : ∀ (plan : Nat) (issued : ExecutionPlan), registry.issuedPlans[plan]? = some issued →
      following.issuedPlans[plan]? = some issued) :
    Justified setting (act :: acts) following number execution :=
  ⟨kept _ _ justified.issued, justified.mint, justified.program, justified.reached.later⟩
/-- One execution goes on, and the others stay where they are. -/
theorem Known.advance {number : Nat} {execution : Execution} {phase : Phase} (known : Known setting acts system)
    (found : system.executions[number]? = some execution)
    (reached : Reached setting (act :: acts) number execution phase) :
    Known setting (act :: acts) (system.advance number execution phase) := by
  intro other mover lookup
  obtain ⟨rfl, rfl⟩ | ⟨_, unmoved⟩ := advance_found lookup
  · have justified := known other execution found
    exact ⟨justified.issued, justified.mint, justified.program, reached⟩
  · exact (known other mover unmoved).later (fun _ _ issued => issued)
theorem accept_eq_ok {registry : Registry} {ctx : DevnetContext} {input : PlanInput} {plan : ExecutionPlan}
    (passed : accept setting registry ctx input = .ok plan) :
    registry.issuedPlans[input.plan]? = some plan ∧ plan.selectedRepresentation.mint = text input.asset.mint.text ∧
      input.programId = EQUITY_GUARD_DEVNET_PROGRAM_ID := by
  unfold accept at passed
  obtain ⟨_, passed⟩ := then_eq_ok.mp passed
  obtain ⟨issued, found, passed⟩ := bind_eq_ok.mp passed
  obtain ⟨_, passed⟩ := then_eq_ok.mp passed
  obtain ⟨devnet, passed⟩ := then_eq_ok.mp passed
  obtain ⟨asset, passed⟩ := then_eq_ok.mp passed
  cases passed
  obtain ⟨_, pinned⟩ := then_eq_ok.mp devnet
  rw [refuse_if_eq_ok, not_not] at pinned
  rw [refuse_if_eq_ok, not_or, not_not] at asset
  exact ⟨ok_or_eq_ok.mp found, asset.1, pinned⟩
theorem Known.step (known : Known setting acts system) (step : Step setting system act after) :
    Known setting (act :: acts) after := by
  cases step with
  | protocol step =>
    intro number execution found
    exact (known number execution found).later (fun _ _ issued => PlanRuns.issued_kept issued step)
  | @started ctx input plan passed =>
    intro number execution found
    obtain earlier | ⟨rfl, rfl⟩ := found_append found
    · exact (known number execution earlier).later (fun _ _ issued => issued)
    · obtain ⟨issued, mint, program⟩ := accept_eq_ok passed
      exact ⟨issued, mint, program, trivial⟩
  | refused threw =>
    intro number execution found
    exact (known number execution found).later (fun _ _ issued => issued)
  | built found waiting returned => exact known.advance found returned
  | @consumed number execution delivery registry found waiting passed =>
    obtain ⟨downstream, _, rfl⟩ := commit_eq_ok passed
    have reached := (known number execution found).reached
    rw [waiting] at reached
    have advanced : Known setting (.consumed number execution.input.plan :: acts)
        (system.advance number execution (.consumed delivery)) :=
      known.advance found ⟨reached, downstream, [], acts, rfl⟩
    intro other mover lookup
    have justified := advanced other mover lookup
    exact ⟨justified.issued, justified.mint, justified.program, justified.reached⟩
  | @slotRead number execution delivery slot found waiting passed =>
    have reached := (known number execution found).reached
    rw [waiting] at reached
    obtain ⟨returned, downstream, between, earlier, rfl⟩ := reached
    have fresh : slot ≤ execution.plan.expiresAtSlot := not_lt.mp (refuse_if_eq_ok.mp passed)
    exact known.advance found ⟨returned, downstream, slot, [], between, earlier, rfl, fresh⟩
  | submitted found waiting => exact known.advance found trivial
  | failed found unsettled => exact known.advance found trivial
theorem known_of_run (run : Run Initial (Step setting) acts system) : Known setting acts system := by
  refine run.history ?_ ?_
  · intro system fresh number execution found
    simp [fresh.2] at found
  · intro acts act before after _ known step
    exact known.step step
/-- A plan stays what it was when it was issued. -/
theorem issued_kept {plan : Nat} {issued : ExecutionPlan}
    (found : system.world.registry.issuedPlans[plan]? = some issued) (step : Step setting system act after) :
    after.world.registry.issuedPlans[plan]? = some issued := by
  cases step with
  | protocol step => exact PlanRuns.issued_kept found step
  | consumed lookup waiting passed =>
    obtain ⟨_, _, rfl⟩ := commit_eq_ok passed
    exact found
  | _ => exact found
/-- Calls of the protocol alone. -/
theorem protocol_run {events : List PlanRuns.Event} {world : PlanRuns.World}
    (run : Run PlanRuns.Initial (PlanRuns.Step setting.realm setting.sha256Hex) events world) :
    Run Initial (Step setting) (events.map .protocol) ⟨world, []⟩ := by
  induction run with
  | start fresh => exact .start ⟨fresh, rfl⟩
  | next earlier taken ih => exact ih.next (.protocol taken)
end

/-! ### A transfer of the reroute -/

def buyerTokens : Address := address "5TUhYYMWi8e75ciXUBjg2iGEcx63gVUTRkpazfR7tvBc" (by decide +kernel)
def recipient : Address := .ofKey ⟨List.replicate 32 8, by simp⟩
def recipientTokens : Address := address "AeAsoG26FJr3GKXMq5e1hbuUEuutCfP36pE7NGXcX3Jt" (by decide +kernel)
/-- The layouts of the token library, and the two token accounts of the transfer. -/
def transferLibrary : TokenLibrary where
  findAssociatedTokenPda owner _ := some (if owner = buyer then buyerTokens else recipientTokens)
  getCreateAssociatedTokenIdempotentInstructionAsync payer owner mint := some {
    programAddress := ClientJupiter.ASSOCIATED_TOKEN_PROGRAM_ADDRESS
    accounts := [⟨payer, .WRITABLE_SIGNER⟩, ⟨recipientTokens, .WRITABLE⟩, ⟨owner, .READONLY⟩, ⟨mint, .READONLY⟩,
      ⟨ClientJupiter.SYSTEM_PROGRAM_ADDRESS, .READONLY⟩, ⟨TOKEN_2022_PROGRAM_ADDRESS, .READONLY⟩]
    data := [1] }
  getTransferCheckedInstruction input :=
    if 0 ≤ input.amount ∧ input.amount < 2 ^ 64 ∧ input.decimals.isIntegerUpTo (.ofInt 255) then some {
      programAddress := TOKEN_2022_PROGRAM_ADDRESS
      accounts := [⟨input.source, .WRITABLE⟩, ⟨input.mint, .READONLY⟩, ⟨input.destination, .WRITABLE⟩,
        ⟨input.authority, .READONLY_SIGNER⟩]
      data := TRANSFER_CHECKED_TAG :: (leBytes 8 input.amount.toNat ++
        [UInt8.ofNat (Normalize.bigIntOf input.decimals).toNat]) }
    else none
theorem transferLibrary_documented : transferLibrary.Documented where
  program := by
    intro input instruction made
    simp only [transferLibrary, Option.ite_none_right_eq_some] at made
    obtain ⟨_, made⟩ := made
    cases made
    rfl
  accounts := by
    intro input instruction made
    simp only [transferLibrary, Option.ite_none_right_eq_some] at made
    obtain ⟨_, made⟩ := made
    cases made
    rfl
  data := by
    intro input instruction made
    simp only [transferLibrary, Option.ite_none_right_eq_some] at made
    obtain ⟨⟨nonneg, small, _⟩, made⟩ := made
    cases made
    have amount : (UInt64.ofNat input.amount.toNat).toNat = input.amount.toNat := by
      rw [UInt64.toNat_ofNat']
      omega
    refine ⟨UInt64.ofNat input.amount.toNat, UInt8.ofNat (Normalize.bigIntOf input.decimals).toNat, ?_, ?_⟩
    · rw [amount]
      omega
    · rw [amount]
/-- The digest of the transfer below. -/
def transferDigest : Chunk 32 := ⟨[0x95, 0xa9, 0x27, 0x8c, 0x98, 0x86, 0x14, 0x8f, 0x09, 0x0b, 0xfc, 0xe1, 0x8b, 0xf6, 0xd4,
  0xe8, 0x3d, 0x89, 0x8d, 0xc4, 0x38, 0xaa, 0x6c, 0xa8, 0xf3, 0xa7, 0x78, 0x66, 0xbc, 0x34, 0xa7, 0x27], rfl⟩
def transferSetting : Setting := ⟨strings, id, fun _ => transferDigest, transferLibrary⟩
def transferContext : DevnetContext := ⟨buyer, true⟩
def transferAsset : TestAsset := ⟨ClientJupiter.SYSTEM_PROGRAM_ADDRESS, 0⟩
def transferInput (key : Text) : PlanInput where
  programId := EQUITY_GUARD_DEVNET_PROGRAM_ID
  plan := 0
  quote := quoteFor onMint
  comparison := some (equalComparison key)
  asset := transferAsset
  recipient
  policy := observedPolicy
theorem transfer_delivered : ∃ delivery, guardedDeliveryInstructions transferSetting EQUITY_GUARD_DEVNET_PROGRAM_ID buyer recipient
    transferAsset (quoteFor onMint).state observedPolicy 50 = .ok delivery ∧ delivery.commitment = transferDigest.bytes := by
  have evaluated : (guardedDeliveryInstructions transferSetting EQUITY_GUARD_DEVNET_PROGRAM_ID buyer recipient
    transferAsset (quoteFor onMint).state observedPolicy 50).toOption.map (fun delivery => delivery.commitment) =
      some transferDigest.bytes := by decide +kernel
  cases delivered : guardedDeliveryInstructions transferSetting EQUITY_GUARD_DEVNET_PROGRAM_ID buyer recipient
    transferAsset (quoteFor onMint).state observedPolicy 50 with
  | error failure =>
    rw [delivered] at evaluated
    cases evaluated
  | ok delivery =>
    rw [delivered] at evaluated
    exact ⟨delivery, rfl, Option.some.inj evaluated⟩
theorem transfer_downstream {programId payer recipient : Address} {asset : TestAsset} {boundState : EconomicState}
    {policy : TransitionPolicy} {amount : Int} {delivery : GuardedDelivery} {setting : Setting}
    (delivered : guardedDeliveryInstructions setting programId payer recipient asset boundState policy amount = .ok delivery) :
    delivery.downstream = record [
      ("adapterKind", .string TRANSFER_CHECKED),
      ("commitmentHex", .string (toHex delivery.commitment))] := by
  unfold guardedDeliveryInstructions at delivered
  obtain ⟨_, delivered⟩ := then_eq_ok.mp delivered
  obtain ⟨_, delivered⟩ := then_eq_ok.mp delivered
  obtain ⟨_, _, delivered⟩ := bind_eq_ok.mp delivered
  obtain ⟨_, _, delivered⟩ := bind_eq_ok.mp delivered
  obtain ⟨_, _, delivered⟩ := bind_eq_ok.mp delivered
  obtain ⟨_, _, delivered⟩ := bind_eq_ok.mp delivered
  obtain ⟨_, _, delivered⟩ := bind_eq_ok.mp delivered
  cases delivered
  rfl

section
variable {key : Text} {plan : ExecutionPlan} {registry : Registry}

/-- The fields of the reroute's plan that the executor reads. -/
structure TransferPlan (plan : ExecutionPlan) : Prop where
  mint : plan.selectedRepresentation.mint = onMint
  state : plan.economicState = (quoteFor onMint).state
  policy : plan.policy = observedPolicy
  amount : plan.expectedOutputRaw = 50
  expires : plan.expiresAtSlot = 11
  downstream : plan.downstream = PlanRuns.transferBinding
theorem transferPlan_of {sha256Hex : Text → Text} {consents : Consent.Consents} {decision : Execution.ExecutionDecision}
    {disclosure : Decisions.RerouteDisclosure}
    (made : planOf sha256Hex consents decision (PlanAtomicity.reroutedRequest key disclosure PlanRuns.transferBinding) =
      .ok plan) : TransferPlan plan := by
  obtain ⟨_, _, content, _⟩ := planOf_eq_ok made
  refine ⟨?_, ?_, ?_, ?_, ?_, ?_⟩ <;> rw [content]
  · rfl
  · rfl
  · rfl
  · rfl
  · rfl
  · exact PlanRuns.transferBinding_canonical
theorem accept_returns {setting : Setting} {ctx : DevnetContext} {input : PlanInput}
    (verified : verifyExecutionPlan setting.realm setting.sha256Hex registry input.plan input.presented = .ok ())
    (found : registry.issuedPlans[input.plan]? = some plan) (policy : assertPlanPolicy plan input.policy = .ok ())
    (devnet : requireDevnet ctx input.programId = .ok ())
    (mint : plan.selectedRepresentation.mint = text input.asset.mint.text)
    (decimals : Numeric.strictEq plan.economicState.decimals input.asset.decimals = true) :
    accept setting registry ctx input = .ok plan := by
  unfold accept
  rw [mapError_eq_ok.mpr verified, ok_bind, found, ok_or_some, ok_bind, mapError_eq_ok.mpr policy, ok_bind, devnet, ok_bind,
    refuse_if_bind, if_neg (by simp [mint, decimals])]
  rfl
theorem assertPlanPolicy_self (plan : ExecutionPlan) : assertPlanPolicy plan plan.policy = .ok () := by
  obtain ⟨key, keyed⟩ := keyOf_returns (Execution.policyValue_plain plan.policy)
  unfold assertPlanPolicy
  rw [keyed, ok_bind, ok_bind, refuse_if_eq_ok]
  simp
theorem assertPlanDownstream_transfer (fields : TransferPlan plan) :
    assertPlanDownstream strings plan PlanRuns.transferBinding = .ok () := by
  obtain ⟨key, keyed⟩ := keyOf_returns PlanRuns.transferBinding_plain
  unfold assertPlanDownstream isDownstreamBinding
  rw [PlanRuns.transferBinding_wellFormed, fields.downstream, PlanRuns.transferBinding_canonical, keyed]
  simp [pure_eq_ok, refuse_if]
theorem transfer_accepted (fields : TransferPlan plan) (found : registry.issuedPlans[0]? = some plan)
    (verified : verifyExecutionPlan strings id registry 0 (transferInput key).presented = .ok ()) :
    accept transferSetting registry transferContext (transferInput key) = .ok plan := by
  have mint : onMint = text transferAsset.mint.text := by decide
  have decimals : Numeric.strictEq (quoteFor onMint).state.decimals transferAsset.decimals = true := by decide
  refine accept_returns verified found ?_ rfl (fields.mint.trans mint) (fields.state ▸ decimals)
  rw [show (transferInput key).policy = plan.policy from fields.policy.symm]
  exact assertPlanPolicy_self plan
theorem transfer_delivers (fields : TransferPlan plan) :
    ∃ delivery, deliver transferSetting transferContext (transferInput key) plan = .ok delivery ∧
      delivery.downstream = PlanRuns.transferBinding := by
  obtain ⟨delivery, delivered, commitment⟩ := transfer_delivered
  have hex : toHex transferDigest.bytes = text "95a9278c9886148f090bfce18bf6d4e83d898dc438aa6ca8f3a77866bc34a727" := by
    decide
  refine ⟨delivery, ?_, ?_⟩
  · unfold deliver
    rw [fields.state, fields.policy, fields.amount]
    exact delivered
  · rw [transfer_downstream delivered, commitment, hex]
    rfl
end

/-! ### Submissions -/

section
variable {setting : Setting} {system : System} {acts : List Act}

/-- A submission came after its plan was consumed by the same execution, and after a slot was read since that is
    still within the plan; and it is the planned action. -/
def Sound (setting : Setting) (system : System) (earlier : List Act) (number plan : Nat) (delivery : GuardedDelivery) : Prop :=
  ∃ issued slot read between before payer mint commitment, system.world.registry.issuedPlans[plan]? = some issued ∧
    earlier = read ++ .slotRead number slot :: (between ++ .consumed number plan :: before) ∧
    slot ≤ issued.expiresAtSlot ∧ Delivers setting payer issued mint commitment delivery
/-- Whatever is executed at once, no plan is submitted twice, and every submission is sound. -/
theorem submissions_safe (documented : setting.library.Documented) (run : Run Initial (Step setting) acts system) :
    acts.Pairwise (fun later earlier => ∀ plan, later.submits = some plan → earlier.submits ≠ some plan) ∧
      ∀ later earlier number plan delivery, acts = later ++ .submitted number plan delivery :: earlier →
        Sound setting system earlier number plan delivery := by
  refine ⟨submits_oneShot.once (run.restrict (fun _ fresh => exclusive_of_initial fresh)
    (fun _ _ _ exclusive step => exclusive.step step)), ?_⟩
  rintro later earlier number plan delivery rfl
  obtain ⟨before, after, first, step, continues⟩ := run.taken
  cases step with
  | @submitted _ execution _ found waiting =>
    have justified := known_of_run first number execution found
    have reached := justified.reached
    rw [waiting] at reached
    obtain ⟨returned, downstream, slot, read, between, start, rfl, fresh⟩ := reached
    obtain ⟨commitment, delivers⟩ := deliver_eq_ok documented returned justified.mint justified.program downstream
    have issued := continues (fun system => system.world.registry.issuedPlans[execution.input.plan]? = some execution.plan)
      (fun _ _ _ found step => issued_kept found step) justified.issued
    exact ⟨execution.plan, slot, read, between, start, _, _, commitment, issued, rfl, fresh, delivers⟩
/-- An execution whose steps all pass submits its plan. -/
theorem submitted_run {world : PlanRuns.World} {ctx : DevnetContext} {input : PlanInput} {plan : ExecutionPlan}
    {delivery : GuardedDelivery} {registry : Registry} {slot : Int} (run : Run Initial (Step setting) acts ⟨world, []⟩)
    (accepted : accept setting world.registry ctx input = .ok plan) (delivered : deliver setting ctx input plan = .ok delivery)
    (committed : commit setting world.registry input plan delivery = .ok registry)
    (fresh : assertPlanFresh plan slot = .ok ()) :
    ∃ system, Run Initial (Step setting) (.submitted 0 input.plan delivery :: .slotRead 0 slot ::
      .consumed 0 input.plan :: .built 0 :: .started 0 :: acts) system := by
  have started := run.next (.started accepted)
  have built := started.next (@Step.built _ _ 0 ⟨ctx, input, plan, .building⟩ delivery rfl rfl delivered)
  have consumed := built.next (@Step.consumed _ _ 0 ⟨ctx, input, plan, .built delivery⟩ delivery registry rfl rfl committed)
  have read := consumed.next (@Step.slotRead _ _ 0 ⟨ctx, input, plan, .consumed delivery⟩ delivery slot rfl rfl fresh)
  exact ⟨_, read.next (@Step.submitted _ _ 0 ⟨ctx, input, plan, .fresh delivery⟩ delivery rfl rfl)⟩
end
theorem submissions_safe_reroute : ∃ delivery events system,
    Run Initial (Step transferSetting)
      (.submitted 0 0 delivery :: .slotRead 0 5 :: .consumed 0 0 :: .built 0 :: .started 0 :: events) system ∧
    Sound transferSetting system (.slotRead 0 5 :: .consumed 0 0 :: .built 0 :: .started 0 :: events) 0 0 delivery := by
  obtain ⟨key, base, disclosure, record, decision, trade⟩ := Execution.reroutedTrade id
  obtain ⟨plan, made, created, consumed⟩ := PlanRuns.rerouted_planned trade
  have fields := transferPlan_of made
  obtain ⟨delivery, delivered, downstream⟩ := @transfer_delivers key plan fields
  have verified : verifyExecutionPlan strings id ⟨⟨[record], [0]⟩, [plan], []⟩ 0 (transferInput key).presented = .ok () :=
    (then_eq_ok.mp consumed).1
  have passed : commit transferSetting ⟨⟨[record], [0]⟩, [plan], []⟩ (transferInput key) plan delivery =
      .ok ⟨⟨[record], [0]⟩, [plan], [0]⟩ := by
    unfold commit
    refine then_eq_ok.mpr ⟨mapError_eq_ok.mpr ?_, mapError_eq_ok.mpr consumed⟩
    rw [downstream]
    exact assertPlanDownstream_transfer fields
  have fresh : assertPlanFresh plan 5 = .ok () := by
    refine refuse_if_eq_ok.mpr ?_
    rw [fields.expires]
    decide
  obtain ⟨system, run⟩ := submitted_run (@protocol_run transferSetting _ _ (PlanRuns.rerouted_run trade created))
    (transfer_accepted fields rfl verified) delivered passed fresh
  exact ⟨delivery, _, system, run, (submissions_safe transferLibrary_documented run).2 [] _ 0 0 delivery rfl⟩

end EquityGuard.Executor
