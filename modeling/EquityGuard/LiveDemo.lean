import EquityGuard.Histories
import EquityGuard.LiveResults
import EquityGuard.Runs

/-!
The page of the local live demo, with the adapter that it drives. The page shows a rejected
order, the updated terms and a completed trade only after the clicks and the proofs that
lead there, however late a click, an answer or a render comes.
-/
namespace EquityGuard.LiveDemo
open EquityGuard.Errors EquityGuard.Histories EquityGuard.JsonText EquityGuard.LiveResults EquityGuard.Runs

inductive LiveLeg where
  | STALE
  | REFRESHED
deriving DecidableEq
inductive BuyStage where
  | ENVIRONMENT_CHECK
  | PHANTOM_CONNECT
  | TRANSACTION_BUILD
  | SIGN_REQUEST
  | SIGNED_BYTES_RETURNED
  | SIMULATION
  | PRE_SIGN_SIMULATION
  | SIGNED_AUTHORIZATION_RECEIPT
  | DEPLOYMENT_ATTESTATION
  | WAITING_FOR_ACTIVATION
  | BLOCKHASH_VALIDATION
  | SUBMISSION
  | CONFIRMATION
  | BALANCE_VERIFICATION
deriving DecidableEq
structure LiveFailure where
  headline : Text
  technical : Text
  stage : BuyStage
  cancelled : Bool
  walletRequested : Bool
  submitted : Bool

/-! ### The session state -/

inductive LiveState where
  | IDLE
  | RUNNING (leg : LiveLeg) (message : Text) (stale : Option LiveStaleResult)
  | STALE_VERIFIED (stale : LiveStaleResult)
  | REVIEWING (stale : LiveStaleResult)
  | COMPLETED (stale : LiveStaleResult) (updated : LiveUpdatedResult)
  | FAILED (leg : LiveLeg) (failure : LiveFailure) (stale : Option LiveStaleResult)

def beginStale : LiveState := .RUNNING .STALE "Connecting Phantom…" none
def withStageMessage (state : LiveState) (message : Text) : LiveState :=
  match state with
  | .RUNNING leg _ stale => .RUNNING leg message stale
  | other => other
def withStaleResult (state : LiveState) (result : LiveStaleResult) : Except Text LiveState :=
  match state with
  | .RUNNING .STALE _ _ => do
    assertStaleInvariants result
    return .STALE_VERIFIED result
  | other => return other
def withReview (state : LiveState) : LiveState :=
  match state with
  | .STALE_VERIFIED stale => .REVIEWING stale
  | other => other
def beginUpdated (state : LiveState) : LiveState :=
  match state with
  | .REVIEWING stale => .RUNNING .REFRESHED "Connecting Phantom…" (some stale)
  | other => other
def withUpdatedResult (state : LiveState) (result : LiveUpdatedResult) : Except Text LiveState :=
  match state with
  | .RUNNING .REFRESHED _ (some stale) => do
    assertUpdatedInvariants result
    return .COMPLETED stale result
  | other => return other
def withFailure (state : LiveState) (leg : LiveLeg) (failure : LiveFailure) : LiveState :=
  .FAILED leg failure (match state with
    | .RUNNING _ _ stale => stale
    | .STALE_VERIFIED stale | .REVIEWING stale => some stale
    | .FAILED _ _ stale => stale
    | .IDLE | .COMPLETED _ _ => none)

def staleOf : LiveState → Option LiveStaleResult
  | .IDLE => none
  | .RUNNING _ _ stale => stale
  | .STALE_VERIFIED stale | .REVIEWING stale | .COMPLETED stale _ => some stale
  | .FAILED _ _ stale => stale
structure LivePanels where
  busy : Bool
  message : Option Text
  showBuy : Bool
  showReviewCta : Bool
  showUpdatedTerms : Bool
  stale : Option LiveStaleResult
  updated : Option LiveUpdatedResult
  failure : Option LiveFailure
  failedLeg : Option LiveLeg
def livePanels (state : LiveState) : LivePanels where
  busy := match state with
    | .RUNNING _ _ _ => true
    | _ => false
  message := match state with
    | .RUNNING _ message _ => some message
    | _ => none
  showBuy := match state with
    | .IDLE => true
    | _ => false
  showReviewCta := match state with
    | .STALE_VERIFIED _ => true
    | _ => false
  showUpdatedTerms := match state with
    | .REVIEWING _ => true
    | _ => false
  stale := staleOf state
  updated := match state with
    | .COMPLETED _ updated => some updated
    | _ => none
  failure := match state with
    | .FAILED _ failure _ => some failure
    | _ => none
  failedLeg := match state with
    | .FAILED leg _ _ => some leg
    | _ => none

/-! ### The card's button -/

inductive Action where
  | reset
  | details
  | confirm
  | review
  | buy
deriving DecidableEq
/-- What a click does, on a card in live mode. -/
def act (panels : LivePanels) : Action :=
  if panels.failure.isSome then .reset
  else if panels.updated.isSome then .details
  else if panels.showUpdatedTerms then .confirm
  else if panels.showReviewCta then .review
  else .buy

/-! ### The adapter's session -/

structure Session where
  wallet : Text
  localT : Int
  stale : Option LocalActivationProof
structure Adapter where
  session : Option Session
  stage : BuyStage
  walletRequested : Bool
  submitted : Bool

def resetLiveSession : Adapter where
  session := none
  stage := .PHANTOM_CONNECT
  walletRequested := false
  submitted := false
def Adapter.track (adapter : Adapter) (value : BuyStage) : Adapter :=
  { adapter with
    stage := value
    walletRequested := if value = .SIGN_REQUEST then true else adapter.walletRequested
    submitted := if value = .SUBMISSION then true else adapter.submitted }

def STATUS : BuyStage → Option Text
  | .ENVIRONMENT_CHECK => some "Preparing local reproduction…"
  | .TRANSACTION_BUILD => some "Building authorization from local state…"
  | .PRE_SIGN_SIMULATION => some "Checking the complete trade before signing…"
  | .SIGN_REQUEST => some "Pre-sign simulation passed. Approve in Phantom."
  | .SIGNED_BYTES_RETURNED => some "Phantom returned signed bytes. Verifying signing time…"
  | .BLOCKHASH_VALIDATION => some "Checking the original blockhash and exact signed bytes…"
  | .SUBMISSION => some "Submitting to the local validator…"
  | .CONFIRMATION => some "Waiting for local confirmation…"
  | .BALANCE_VERIFICATION => some "Verifying execution and token balances…"
  | _ => none
def stageStatus (stage : BuyStage) (clock localT : Option Int) : Text :=
  match stage, clock, localT with
  | .WAITING_FOR_ACTIVATION, some clock, some localT =>
    let remaining := localT - clock
    if remaining > 0 then
      text "Authorization signed ✓\nTransaction held\nEconomic state changes in: " ++ decimal remaining ++ text "…"
    else "State changed\nSubmitting the exact signed transaction once the validator Clock is past local T."
  | stage, _, _ => (STATUS stage).getD "Connecting Phantom…"

/-! ### The page -/

/-- Where a run of the page waits: for the adapter's module, or inside one of its two calls. -/
inductive Call where
  | loading (leg : LiveLeg)
  | connecting
  | arming (wallet : Text)
  | proving (leg : LiveLeg) (current : Session)
def Call.leg : Call → LiveLeg
  | loading leg => leg
  | connecting | arming _ => .STALE
  | proving leg _ => leg

structure Page where
  /-- What the queued updates lead to. -/
  state : LiveState
  /-- The state of the last render: the one that the handlers see. -/
  rendered : LiveState
  /-- The run in flight: `running.current`. -/
  run : Option Call
  loaded : Bool
  adapter : Adapter
  /-- An updater threw, and took the tree with it. -/
  crashed : Option Text

/-- What the adapter relies on: its errors, what it tells of them, and the wallet it is configured for. -/
structure Host (Thrown : Type) where
  error : Text → Thrown
  message : Thrown → Text
  traderFacingError : (action : String) → Thrown → BuyStage → Text × Text
  isSignatureCancelled : Thrown → Bool
  EXPECTED_PHANTOM : Text

/-- What happens to a page, in any order. -/
inductive Happening (Thrown : Type) where
  | rendered
  | clicked (action : Action)
  | loaded
  | unloadable (error : Thrown)
  | connected (publicKey : Text)
  | armed (localT : Int)
  | staged (stage : BuyStage) (clock : Option Int)
  | proved (proof : LocalActivationProof)
  | threw (error : Thrown)

def Page.fresh : Page where
  state := .IDLE
  rendered := .IDLE
  run := none
  loaded := false
  adapter := resetLiveSession
  crashed := none

section
variable {Thrown : Type} (host : Host Thrown)

/-- `setState(updater)`. -/
def Page.setState (page : Page) (updater : LiveState → Except Text LiveState) : Page :=
  match updater page.state with
  | .ok state => { page with state }
  | .error problem => { page with crashed := some problem }
def describeLiveFailure (adapter : Adapter) (action : String) (error : Thrown) : LiveFailure :=
  let facing := host.traderFacingError action error adapter.stage
  {
    headline := facing.1
    technical := facing.2
    stage := adapter.stage
    cancelled := host.isSignatureCancelled error
    walletRequested := adapter.walletRequested
    submitted := adapter.submitted
  }
def actionOf : LiveLeg → String
  | .STALE => "buy"
  | .REFRESHED => "confirm"
/-- The end of a run that the adapter, or a check of what it answered, made fail. -/
def Page.fail (page : Page) (leg : LiveLeg) (error : Thrown) : Page :=
  { page with
    state := withFailure page.state leg (describeLiveFailure host page.adapter (actionOf leg) error)
    run := none }
/-- The page's run with the call's answer: the check first, and then the update. -/
def Page.answer {Result : Type} (page : Page) (leg : LiveLeg) (verified : Except Text Result)
    (assertInvariants : Result → Except Text Unit) (withResult : LiveState → Result → Except Text LiveState) : Page :=
  match verified with
  | .error problem => page.fail host leg (host.error problem)
  | .ok result =>
    match assertInvariants result with
    | .error problem => page.fail host leg (host.error problem)
    | .ok () => { page.setState (fun current => withResult current result) with run := none }
/-- A stage that the adapter reports, with the local activation time if its session has one. -/
def Page.report (page : Page) (localT : Option Int) (stage : BuyStage) (clock : Option Int) : Page :=
  { page with
    adapter := page.adapter.track stage
    state := withStageMessage page.state (stageStatus stage clock localT) }

def Page.start (page : Page) (leg : LiveLeg) : Page := if page.run.isSome then page else { page with run := some (.loading leg) }
/-- The reset of the adapter's session waits for the module, as every later call does after it. -/
def Page.click (page : Page) : Action → Page
  | .reset => if page.run.isSome then page else { page with state := .IDLE, adapter := resetLiveSession }
  | .details => page
  | .confirm =>
    match page.rendered with
    | .REVIEWING _ => { page with state := beginUpdated page.rendered }.start .REFRESHED
    | _ => page
  | .review => { page with state := withReview page.state }
  | .buy => { page with state := beginStale }.start .STALE

/-- The adapter's module arrived, and its call begins. -/
def Page.called (page : Page) (leg : LiveLeg) : Page :=
  match leg with
  | .STALE => { page with adapter := resetLiveSession, run := some .connecting }.report none .PHANTOM_CONNECT none
  | .REFRESHED =>
    match page.adapter.session with
    | some ⟨wallet, localT, some stale⟩ =>
      { page with
        adapter := { page.adapter with walletRequested := false, submitted := false }
        run := some (.proving .REFRESHED ⟨wallet, localT, some stale⟩) }
    | _ => page.fail host .REFRESHED (host.error "No verified stale result to update from")
def Page.proved (page : Page) (leg : LiveLeg) (current : Session) (proof : LocalActivationProof) : Page :=
  match leg with
  | .STALE =>
    match page.adapter.session with
    | some session =>
      { page with adapter := { page.adapter with session := some { session with stale := some proof } } }.answer host .STALE
        (verifyStaleResult proof current.wallet) assertStaleInvariants withStaleResult
    | none => page.fail host .STALE (host.error "Cannot set properties of null (setting 'stale')")
  | .REFRESHED =>
    page.answer host .REFRESHED (verifyUpdatedResult proof current.wallet) assertUpdatedInvariants withUpdatedResult

/-- The next page, where it can happen. -/
def Page.next (page : Page) : Happening Thrown → Option Page
  | .rendered => some { page with rendered := page.state }
  | .clicked action =>
    let panels := livePanels page.rendered
    if panels.busy = false ∧ act panels = action then some (page.click action) else none
  | .loaded =>
    match page.run with
    | some (.loading leg) => some ({ page with loaded := true }.called host leg)
    | _ => none
  | .unloadable error =>
    match page.run with
    | some (.loading leg) =>
      if page.loaded then none
      else some { page with
        state := withFailure page.state leg {
          headline := "The local live demo could not start."
          technical := host.message error
          stage := .ENVIRONMENT_CHECK
          cancelled := false
          walletRequested := false
          submitted := false }
        run := none }
    | _ => none
  | .connected publicKey =>
    match page.run with
    | some .connecting =>
      if publicKey = host.EXPECTED_PHANTOM then
        some ({ page with run := some (.arming publicKey) }.report none .ENVIRONMENT_CHECK none)
      else some (page.fail host .STALE (host.error "Connect the configured Phantom public key"))
    | _ => none
  | .armed localT =>
    match page.run with
    | some (.arming wallet) =>
      let session := { wallet, localT, stale := none }
      some { page with adapter := { page.adapter with session := some session }, run := some (.proving .STALE session) }
    | _ => none
  | .staged stage clock =>
    match page.run with
    | some (.proving _ current) => some (page.report (some current.localT) stage clock)
    | _ => none
  | .proved proof =>
    match page.run with
    | some (.proving leg current) => some (page.proved host leg current proof)
    | _ => none
  | .threw error =>
    match page.run with
    | some (.loading _) | none => none
    | some call => some (page.fail host call.leg error)
def Step (before : Page) (event : Happening Thrown) (after : Page) : Prop := before.next host event = some after

/-! ### How far the page may be ahead of its render -/

def runningLeg : LiveState → Option LiveLeg
  | .RUNNING leg _ _ => some leg
  | _ => none
/-- What a run may still do to a state that no click changes. -/
inductive Settles : LiveState → LiveState → Prop where
  | refl (state : LiveState) : Settles state state
  | message {leg : LiveLeg} {before after : Text} {stale : Option LiveStaleResult} :
      Settles (.RUNNING leg before stale) (.RUNNING leg after stale)
  | verified {message : Text} {stale : Option LiveStaleResult} {result : LiveStaleResult} :
      Settles (.RUNNING .STALE message stale) (.STALE_VERIFIED result)
  | completed {message : Text} {stale : LiveStaleResult} {result : LiveUpdatedResult} :
      Settles (.RUNNING .REFRESHED message (some stale)) (.COMPLETED stale result)
  | failed {leg : LiveLeg} {message : Text} {stale : Option LiveStaleResult} {failure : LiveFailure} :
      Settles (.RUNNING leg message stale) (.FAILED leg failure stale)

theorem Settles.trans {first second third : LiveState} (one : Settles first second) (other : Settles second third) :
    Settles first third := by
  cases one with
  | refl => exact other
  | message =>
    cases other with
    | refl | message => exact .message
    | verified => exact .verified
    | completed => exact .completed
    | failed => exact .failed
  | verified | completed | failed =>
    cases other with
    | refl => constructor
theorem Settles.leg {before after : LiveState} (settles : Settles before after) :
    runningLeg after = none ∨ runningLeg after = runningLeg before := by
  cases settles with
  | refl | message => exact .inr rfl
  | verified | completed | failed => exact .inl rfl
/-- Only a running state changes by itself. -/
theorem Settles.still {before after : LiveState} (settles : Settles before after) (idle : runningLeg before = none) :
    after = before := by
  cases settles with
  | refl => rfl
  | message | verified | completed | failed => cases idle

/-- Where the one click leads that a rendered state takes. -/
def pressed : LiveState → LiveState
  | .IDLE => beginStale
  | .STALE_VERIFIED stale => .REVIEWING stale
  | .REVIEWING stale => beginUpdated (.REVIEWING stale)
  | .FAILED _ _ _ => .IDLE
  | other => other
/-- The state is no further than a click and its run from the render. -/
def Ahead (rendered state : LiveState) : Prop := Settles rendered state ∨ Settles (pressed rendered) state

theorem Ahead.settle {rendered before after : LiveState} (ahead : Ahead rendered before) (settles : Settles before after) :
    Ahead rendered after := ahead.imp (fun one => one.trans settles) (fun one => one.trans settles)
theorem Ahead.leg {rendered state : LiveState} (ahead : Ahead rendered state) :
    runningLeg state = none ∨ runningLeg state = runningLeg rendered ∨ runningLeg state = runningLeg (pressed rendered) := by
  rcases ahead with settles | settles
  · exact settles.leg.imp_right .inl
  · exact settles.leg.imp_right .inr

/-! ### What led to a state -/

/-- A new order, or a new start: nothing from before it counts. -/
def Anew (event : Happening Thrown) : Prop := event = .clicked .buy ∨ event = .clicked .reset
def Bought : List (Happening Thrown) → Prop := After (· = .clicked .buy) Anew (fun _ => True)
def Rejected (stale : LiveStaleResult) : List (Happening Thrown) → Prop :=
  After (fun event => ∃ proof, event = .proved proof ∧ verifyStaleResult proof host.EXPECTED_PHANTOM = .ok stale) Anew Bought
def Reviewed (stale : LiveStaleResult) : List (Happening Thrown) → Prop :=
  After (· = .clicked .review) Anew (Rejected host stale)
def Confirmed (stale : LiveStaleResult) : List (Happening Thrown) → Prop :=
  After (· = .clicked .confirm) Anew (Reviewed host stale)
def Settled (stale : LiveStaleResult) (updated : LiveUpdatedResult) : List (Happening Thrown) → Prop :=
  After (fun event => ∃ proof, event = .proved proof ∧ verifyUpdatedResult proof host.EXPECTED_PHANTOM = .ok updated) Anew
    (Confirmed host stale)

def Underway (leg : LiveLeg) (stale : Option LiveStaleResult) (history : List (Happening Thrown)) : Prop :=
  match leg with
  | .STALE => stale = none ∧ Bought history
  | .REFRESHED => ∃ rejected, stale = some rejected ∧ Confirmed host rejected history
/-- The order of clicks and proofs that each state stands for. -/
def Story (state : LiveState) (history : List (Happening Thrown)) : Prop :=
  match state with
  | .IDLE => True
  | .RUNNING leg _ stale | .FAILED leg _ stale => Underway host leg stale history
  | .STALE_VERIFIED stale => Rejected host stale history
  | .REVIEWING stale => Reviewed host stale history
  | .COMPLETED stale updated => Settled host stale updated history

variable {host} {history : List (Happening Thrown)} {event : Happening Thrown} {state : LiveState} {leg : LiveLeg}
variable {page after : Page}

theorem Underway.later {stale : Option LiveStaleResult} (underway : Underway host leg stale history) (aside : ¬ Anew event) :
    Underway host leg stale (event :: history) := by
  cases leg with
  | STALE => exact underway.imp_right (·.later aside)
  | REFRESHED => exact underway.imp fun _ confirmed => confirmed.imp_right (·.later aside)
theorem Story.later (story : Story host state history) (aside : ¬ Anew event) : Story host state (event :: history) := by
  cases state with
  | IDLE => trivial
  | RUNNING leg _ stale | FAILED leg _ stale => exact Underway.later (show Underway host leg stale history from story) aside
  | STALE_VERIFIED stale | REVIEWING stale | COMPLETED stale updated => exact After.later story aside

/-- A state that the page had at some time. -/
def Shown (host : Host Thrown) (state : LiveState) (history : List (Happening Thrown)) : Prop :=
  ∃ earlier, earlier <:+ history ∧ Story host state earlier

theorem Shown.later (shown : Shown host state history) : Shown host state (event :: history) :=
  shown.imp fun _ found => found.imp_left (·.trans (List.suffix_cons _ _))

/-! ### One step -/

/-- Every wallet of a run is the configured one. -/
structure Configured (host : Host Thrown) (page : Page) : Prop where
  arming : ∀ wallet, page.run = some (.arming wallet) → wallet = host.EXPECTED_PHANTOM
  proving : ∀ leg current, page.run = some (.proving leg current) → current.wallet = host.EXPECTED_PHANTOM
  session : ∀ session, page.adapter.session = some session → session.wallet = host.EXPECTED_PHANTOM
structure Sound (host : Host Thrown) (history : List (Happening Thrown)) (page : Page) : Prop where
  whole : page.crashed = none
  busy : page.run.map Call.leg = runningLeg page.state
  ahead : Ahead page.rendered page.state
  story : Story host page.state history
  shown : Shown host page.rendered history
  reviewed : ∀ stale, page.rendered = .REVIEWING stale → Reviewed host stale history
  configured : Configured host page

theorem fresh_sound : Sound host [] Page.fresh where
  whole := rfl
  busy := rfl
  ahead := .inl (.refl _)
  story := trivial
  shown := ⟨[], List.suffix_rfl, trivial⟩
  reviewed _ rendered := by cases rendered
  configured := {
    arming _ waits := by cases waits
    proving _ _ waits := by cases waits
    session _ found := by cases found
  }

/-- A run in flight is one of the leg that the page shows. -/
theorem Sound.running (sound : Sound host history page) {call : Call} (flight : page.run = some call) :
    ∃ message stale, page.state = .RUNNING call.leg message stale := by
  have busy := sound.busy
  rw [flight] at busy
  cases state : page.state with
  | RUNNING leg message stale =>
    rw [state] at busy
    cases Option.some.inj busy
    exact ⟨message, stale, rfl⟩
  | IDLE | STALE_VERIFIED | REVIEWING | COMPLETED | FAILED =>
    rw [state] at busy
    cases busy

/-- A step that changes neither the state's story nor the render. -/
theorem Sound.moved (sound : Sound host history page) (aside : ¬ Anew event) (whole : after.crashed = none)
    (busy : after.run.map Call.leg = runningLeg after.state) (rendered : after.rendered = page.rendered)
    (settles : Settles page.state after.state) (story : Story host after.state (event :: history))
    (configured : Configured host after) : Sound host (event :: history) after where
  whole := whole
  busy := busy
  ahead := by
    rw [rendered]
    exact sound.ahead.settle settles
  story := story
  shown := by
    rw [rendered]
    exact sound.shown.later
  reviewed stale shown := by
    rw [rendered] at shown
    exact (sound.reviewed stale shown).later aside
  configured := configured

theorem Configured.ended (sessions : ∀ session, after.adapter.session = some session → session.wallet = host.EXPECTED_PHANTOM)
    (ended : after.run = none) : Configured host after where
  arming _ waits := by simp [ended] at waits
  proving _ _ waits := by simp [ended] at waits
  session := sessions
theorem Sound.failed (sound : Sound host history page) (aside : ¬ Anew event) {call : Call} (flight : page.run = some call)
    {failure : LiveFailure} (state : after.state = withFailure page.state call.leg failure) (ended : after.run = none)
    (rendered : after.rendered = page.rendered) (whole : after.crashed = page.crashed)
    (sessions : ∀ session, after.adapter.session = some session → session.wallet = host.EXPECTED_PHANTOM) :
    Sound host (event :: history) after := by
  obtain ⟨message, stale, running⟩ := sound.running flight
  have story := sound.story
  rw [running] at story state
  refine sound.moved aside (whole.trans sound.whole) ?_ rendered ?_ ?_ (.ended sessions ended)
  · rw [ended, state]
    rfl
  · rw [running, state]
    exact .failed
  · rw [state]
    exact Underway.later story aside
/-- A step of a run that goes on: at most the message changes. -/
theorem Sound.continued (sound : Sound host history page) (aside : ¬ Anew event) {call next : Call}
    (flight : page.run = some call) (goes : after.run = some next) (same : next.leg = call.leg)
    (state : after.state = page.state ∨ ∃ message, after.state = withStageMessage page.state message)
    (rendered : after.rendered = page.rendered) (whole : after.crashed = page.crashed) (configured : Configured host after) :
    Sound host (event :: history) after := by
  obtain ⟨message, stale, running⟩ := sound.running flight
  have story := sound.story
  rw [running] at story state
  obtain ⟨shown, state⟩ : ∃ shown, after.state = .RUNNING call.leg shown stale := by
    rcases state with state | ⟨shown, state⟩
    · exact ⟨message, state⟩
    · exact ⟨shown, state⟩
  refine sound.moved aside (whole.trans sound.whole) ?_ rendered ?_ ?_ configured
  · rw [goes, state, Option.map_some, same]
    rfl
  · rw [running, state]
    exact .message
  · rw [state]
    exact Underway.later story aside

theorem clicked_aside {action : Action} (quiet : action ≠ .buy ∧ action ≠ .reset) :
    ¬ Anew (.clicked action : Happening Thrown) := by
  rintro (buy | reset)
  · exact quiet.1 (Happening.clicked.inj buy)
  · exact quiet.2 (Happening.clicked.inj reset)
/-- A click that starts a run of the leg that the page is to show, or finds one of it in flight. -/
theorem start_run {before : Page} {leg : LiveLeg} (free : before.run.map Call.leg = none ∨ before.run.map Call.leg = some leg) :
    (before.start leg).run.map Call.leg = some leg := by
  unfold Page.start
  split
  · rename_i flight
    rcases free with none | some
    · rw [Option.map_eq_none_iff.mp none] at flight
      cases flight
    · exact some
  · rfl
@[simp] theorem start_state (before : Page) (leg : LiveLeg) : (before.start leg).state = before.state := by
  unfold Page.start
  split <;> rfl
@[simp] theorem start_rendered (before : Page) (leg : LiveLeg) : (before.start leg).rendered = before.rendered := by
  unfold Page.start
  split <;> rfl
@[simp] theorem start_crashed (before : Page) (leg : LiveLeg) : (before.start leg).crashed = before.crashed := by
  unfold Page.start
  split <;> rfl
@[simp] theorem start_adapter (before : Page) (leg : LiveLeg) : (before.start leg).adapter = before.adapter := by
  unfold Page.start
  split <;> rfl
theorem Configured.start {before : Page} (configured : Configured host before) (leg : LiveLeg) :
    Configured host (before.start leg) := by
  unfold Page.start
  split
  · exact configured
  · exact {
      arming _ waits := by cases waits
      proving _ _ waits := by cases waits
      session := configured.session
    }

/-- The click on each rendered state. -/
theorem clicked_cases {action : Action} (taken : page.next host (.clicked action) = some after) :
    (page.rendered = .IDLE ∧ action = .buy ∧ after = { page with state := beginStale }.start .STALE) ∨
    (∃ stale, page.rendered = .STALE_VERIFIED stale ∧ action = .review ∧
      after = { page with state := withReview page.state }) ∨
    (∃ stale, page.rendered = .REVIEWING stale ∧ action = .confirm ∧
      after = { page with state := beginUpdated (.REVIEWING stale) }.start .REFRESHED) ∨
    (∃ stale updated, page.rendered = .COMPLETED stale updated ∧ action = .details ∧ after = page) ∨
    (∃ leg failure stale, page.rendered = .FAILED leg failure stale ∧ action = .reset ∧ after = page.click .reset) := by
  unfold Page.next at taken
  dsimp only at taken
  split at taken
  · rename_i pressed
    obtain ⟨idle, acts⟩ := pressed
    cases Option.some.inj taken
    obtain ⟨rendered, shown⟩ : ∃ rendered, page.rendered = rendered := ⟨_, rfl⟩
    rw [shown] at idle acts
    cases rendered with
    | IDLE =>
      subst acts
      exact .inl ⟨shown, rfl, rfl⟩
    | RUNNING leg message stale => cases idle
    | STALE_VERIFIED stale =>
      subst acts
      exact .inr (.inl ⟨stale, shown, rfl, rfl⟩)
    | REVIEWING stale =>
      subst acts
      refine .inr (.inr (.inl ⟨stale, shown, rfl, ?_⟩))
      rw [← shown]
      simp only [Page.click, shown, act, livePanels]
      rfl
    | COMPLETED stale updated =>
      subst acts
      exact .inr (.inr (.inr (.inl ⟨stale, updated, shown, rfl, rfl⟩)))
    | FAILED leg failure stale =>
      subst acts
      exact .inr (.inr (.inr (.inr ⟨leg, failure, stale, shown, rfl, rfl⟩)))
  · cases taken

/-- Nothing runs once a failure is rendered. -/
theorem Sound.idle (sound : Sound host history page) {failure : LiveFailure} {stale : Option LiveStaleResult}
    (shown : page.rendered = .FAILED leg failure stale) : page.run = none := by
  have ahead := sound.ahead
  rw [shown] at ahead
  have still := ahead.leg
  rw [← sound.busy] at still
  simpa [pressed, runningLeg] using still
theorem clicked_sound (sound : Sound host history page) {action : Action} (taken : page.next host (.clicked action) = some after) :
    Sound host (.clicked action :: history) after := by
  have ahead := sound.ahead
  have story := sound.story
  have busy := sound.busy
  obtain ⟨shown, rfl, rfl⟩ | ⟨stale, shown, rfl, rfl⟩ | ⟨stale, shown, rfl, rfl⟩ | ⟨stale, updated, shown, rfl, rfl⟩ |
    ⟨leg, failure, stale, shown, rfl, rfl⟩ := clicked_cases taken
  · have free : page.run.map Call.leg = none ∨ page.run.map Call.leg = some .STALE := by
      rw [busy]
      simpa [shown, pressed, beginStale, runningLeg] using ahead.leg
    exact {
      whole := by simpa using sound.whole
      busy := by
        rw [start_state]
        exact start_run free
      ahead := by
        simp only [start_state, start_rendered, shown]
        exact .inr (.refl _)
      story := by
        simp only [start_state]
        exact ⟨rfl, .now rfl trivial⟩
      shown := by
        rw [start_rendered]
        exact sound.shown.later
      reviewed := by simp [shown]
      configured := by
        refine .start ?_ _
        exact ⟨sound.configured.arming, sound.configured.proving, sound.configured.session⟩
    }
  · have quiet : ¬ Anew (.clicked .review : Happening Thrown) := clicked_aside ⟨by decide, by decide⟩
    have before : page.state = .STALE_VERIFIED stale ∨ page.state = .REVIEWING stale := by
      rw [shown] at ahead
      exact ahead.imp (fun settles => settles.still rfl) (fun settles => settles.still rfl)
    exact {
      whole := sound.whole
      busy := by
        rcases before with same | same <;> simpa [same, withReview, runningLeg] using busy
      ahead := by
        rcases before with same | same <;> simpa [shown, same, withReview, Ahead, pressed] using .inr (Settles.refl _)
      story := by
        rcases before with same | same
        · simp only [same, withReview]
          rw [same] at story
          exact .now rfl story
        · simp only [same, withReview]
          rw [same] at story
          exact After.later story quiet
      shown := sound.shown.later
      reviewed := by simp [shown]
      configured := ⟨sound.configured.arming, sound.configured.proving, sound.configured.session⟩
    }
  · have free : page.run.map Call.leg = none ∨ page.run.map Call.leg = some .REFRESHED := by
      rw [busy]
      simpa [shown, pressed, beginUpdated, runningLeg] using ahead.leg
    have reviewed := sound.reviewed stale shown
    exact {
      whole := by simpa using sound.whole
      busy := by
        rw [start_state]
        exact start_run free
      ahead := by
        simp only [start_state, start_rendered, shown]
        exact .inr (.refl _)
      story := by
        simp only [start_state]
        exact ⟨stale, rfl, .now rfl reviewed⟩
      shown := by
        rw [start_rendered]
        exact sound.shown.later
      reviewed other same := by
        simp only [start_rendered] at same
        exact (sound.reviewed other same).later (clicked_aside ⟨by decide, by decide⟩)
      configured := by
        refine .start ?_ _
        exact ⟨sound.configured.arming, sound.configured.proving, sound.configured.session⟩
    }
  · exact {
      whole := sound.whole
      busy := busy
      ahead := ahead
      story := story.later (clicked_aside ⟨by decide, by decide⟩)
      shown := sound.shown.later
      reviewed := by simp [shown]
      configured := sound.configured
    }
  · have ended := sound.idle shown
    rw [Page.click, if_neg (by simp [ended])]
    exact {
      whole := sound.whole
      busy := by simp [ended, runningLeg]
      ahead := by
        rw [shown]
        exact .inr (.refl _)
      story := trivial
      shown := sound.shown.later
      reviewed := by simp [shown]
      configured := .ended (by simp [resetLiveSession]) ended
    }

theorem aside_of_clicked (other : ∀ action, event ≠ .clicked action) : ¬ Anew event := by
  rintro (rfl | rfl)
  · exact other _ rfl
  · exact other _ rfl
theorem rendered_sound (sound : Sound host history page) :
    Sound host (.rendered :: history) { page with rendered := page.state } := by
  have quiet : ¬ Anew (.rendered : Happening Thrown) := aside_of_clicked (by simp)
  exact {
    whole := sound.whole
    busy := sound.busy
    ahead := .inl (.refl _)
    story := sound.story.later quiet
    shown := ⟨_, List.suffix_rfl, sound.story.later quiet⟩
    reviewed stale shown := by
      have story := sound.story.later quiet
      rw [show page.state = .REVIEWING stale from shown] at story
      exact story
    configured := ⟨sound.configured.arming, sound.configured.proving, sound.configured.session⟩
  }

theorem fail_sound (sound : Sound host history page) (aside : ¬ Anew event) {call : Call} (flight : page.run = some call)
    (adapter : Adapter) (sessions : ∀ session, adapter.session = some session → session.wallet = host.EXPECTED_PHANTOM)
    (error : Thrown) : Sound host (event :: history) ({ page with adapter }.fail host call.leg error) :=
  sound.failed aside flight rfl rfl rfl rfl sessions
theorem called_sound (sound : Sound host history page) (flight : page.run = some (.loading leg)) :
    Sound host (.loaded :: history) ({ page with loaded := true }.called host leg) := by
  have quiet : ¬ Anew (.loaded : Happening Thrown) := aside_of_clicked (by simp)
  cases leg with
  | STALE =>
    refine sound.continued quiet flight rfl rfl (.inr ⟨_, rfl⟩) rfl rfl ?_
    exact {
      arming _ waits := by cases waits
      proving _ _ waits := by cases waits
      session _ found := by cases found
    }
  | REFRESHED =>
    unfold Page.called
    dsimp only
    split
    · rename_i wallet localT stale found
      have known := sound.configured.session _ found
      refine sound.continued quiet flight rfl rfl (.inl rfl) rfl rfl ?_
      exact {
        arming _ waits := by cases waits
        proving _ _ waits := by
          cases waits
          exact known
        session := sound.configured.session
      }
    · exact sound.failed quiet flight rfl rfl rfl rfl sound.configured.session
theorem answer_sound {Result : Type} (sound : Sound host history page) (aside : ¬ Anew event) {call : Call}
    (flight : page.run = some call) (adapter : Adapter)
    (sessions : ∀ session, adapter.session = some session → session.wallet = host.EXPECTED_PHANTOM)
    {verified : Except Text Result} {assertInvariants : Result → Except Text Unit}
    {withResult : LiveState → Result → Except Text LiveState}
    (accepted : ∀ result, verified = .ok result → assertInvariants result = .ok () → ∃ state, withResult page.state result = .ok state ∧
      runningLeg state = none ∧ Settles page.state state ∧ Story host state (event :: history)) :
    Sound host (event :: history) ({ page with adapter }.answer host call.leg verified assertInvariants withResult) := by
  unfold Page.answer
  split
  · exact fail_sound sound aside flight adapter sessions _
  · rename_i result
    split
    · exact fail_sound sound aside flight adapter sessions _
    · rename_i checked
      obtain ⟨state, updated, idle, settles, story⟩ := accepted result rfl checked
      simp only [Page.setState, updated]
      exact sound.moved aside sound.whole idle.symm rfl settles story (.ended sessions rfl)
theorem proved_sound (sound : Sound host history page) {current : Session} (flight : page.run = some (.proving leg current))
    (proof : LocalActivationProof) : Sound host (.proved proof :: history) (page.proved host leg current proof) := by
  have quiet : ¬ Anew (.proved proof : Happening Thrown) := aside_of_clicked (by simp)
  obtain ⟨message, stale, running⟩ := sound.running flight
  have wallet := sound.configured.proving _ _ flight
  have story := sound.story
  rw [running] at story
  cases leg with
  | STALE =>
    unfold Page.proved
    dsimp only
    split
    · rename_i session found
      refine answer_sound sound quiet flight _ ?_ fun result verified checked => ?_
      · rintro _ ⟨⟩
        exact sound.configured.session session found
      · rw [wallet] at verified
        rw [running]
        refine ⟨.STALE_VERIFIED result, ?_, rfl, .verified, .now ⟨proof, rfl, verified⟩ story.2⟩
        simp only [Call.leg, withStaleResult, checked]
        rfl
    · exact sound.failed quiet flight rfl rfl rfl rfl sound.configured.session
  | REFRESHED =>
    obtain ⟨rejected, rfl, confirmed⟩ := story
    refine answer_sound sound quiet flight page.adapter sound.configured.session fun result verified checked => ?_
    rw [wallet] at verified
    rw [running]
    refine ⟨.COMPLETED rejected result, ?_, rfl, .completed, .now ⟨proof, rfl, verified⟩ confirmed⟩
    simp only [Call.leg, withUpdatedResult, checked]
    rfl

/-- Whatever happens next, the page stays sound. -/
theorem step_sound (sound : Sound host history page) (step : Step host page event after) :
    Sound host (event :: history) after := by
  unfold Step at step
  cases event with
  | rendered =>
    cases Option.some.inj step
    exact rendered_sound sound
  | clicked action => exact clicked_sound sound step
  | loaded =>
    simp only [Page.next] at step
    split at step
    · rename_i leg flight
      cases Option.some.inj step
      exact called_sound sound flight
    · cases step
  | unloadable error =>
    simp only [Page.next] at step
    split at step
    · rename_i leg flight
      split at step
      · cases step
      · cases Option.some.inj step
        exact sound.failed (aside_of_clicked (by simp)) flight rfl rfl rfl rfl sound.configured.session
    · cases step
  | connected publicKey =>
    have quiet : ¬ Anew (.connected publicKey : Happening Thrown) := aside_of_clicked (by simp)
    simp only [Page.next] at step
    split at step
    · rename_i flight
      split at step
      · rename_i known
        cases Option.some.inj step
        refine sound.continued quiet flight rfl rfl (.inr ⟨_, rfl⟩) rfl rfl ?_
        exact {
          arming _ waits := by
            cases waits
            exact known
          proving _ _ waits := by cases waits
          session := sound.configured.session
        }
      · cases Option.some.inj step
        exact fail_sound sound quiet flight page.adapter sound.configured.session _
    · cases step
  | armed localT =>
    simp only [Page.next] at step
    split at step
    · rename_i wallet flight
      have known := sound.configured.arming _ flight
      cases Option.some.inj step
      refine sound.continued (aside_of_clicked (by simp)) flight rfl rfl (.inl rfl) rfl rfl ?_
      exact {
        arming _ waits := by cases waits
        proving _ _ waits := by
          cases waits
          exact known
        session _ found := by
          cases found
          exact known
      }
    · cases step
  | staged stage clock =>
    simp only [Page.next] at step
    split at step
    · rename_i current flight
      cases Option.some.inj step
      refine sound.continued (aside_of_clicked (by simp)) flight flight rfl (.inr ⟨_, rfl⟩) rfl rfl ?_
      exact ⟨sound.configured.arming, sound.configured.proving, sound.configured.session⟩
    · cases step
  | proved proof =>
    simp only [Page.next] at step
    split at step
    · rename_i leg current flight
      cases Option.some.inj step
      exact proved_sound sound flight proof
    · cases step
  | threw error =>
    simp only [Page.next] at step
    split at step
    · cases step
    · cases step
    · rename_i call _ flight
      cases Option.some.inj step
      exact fail_sound sound (aside_of_clicked (by simp)) flight page.adapter sound.configured.session error

theorem run_sound (run : Run (· = Page.fresh) (Step host) history page) : Sound host history page :=
  run.history (by rintro _ rfl; exact fresh_sound) (fun _ _ _ _ _ sound step => step_sound sound step)

/-- A stale result of a state was proved in the order that the state stands for. -/
theorem Story.rejected (story : Story host state history) {stale : LiveStaleResult} (holds : staleOf state = some stale) :
    ∃ earlier, earlier <:+ history ∧ Rejected host stale earlier := by
  have of_confirmed (confirmed : Confirmed host stale history) : ∃ earlier, earlier <:+ history ∧ Rejected host stale earlier := by
    obtain ⟨middle, within, reviewed⟩ := confirmed.exists_past
    obtain ⟨earlier, before, rejected⟩ := reviewed.exists_past
    exact ⟨earlier, before.trans within, rejected⟩
  cases state with
  | IDLE => cases holds
  | RUNNING leg _ known | FAILED leg _ known =>
    cases holds
    cases leg with
    | STALE => cases story.1
    | REFRESHED =>
      obtain ⟨rejected, same, confirmed⟩ := story
      cases same
      exact of_confirmed confirmed
  | STALE_VERIFIED known =>
    cases holds
    exact ⟨history, List.suffix_rfl, story⟩
  | REVIEWING known =>
    cases holds
    exact story.exists_past
  | COMPLETED known updated =>
    cases holds
    obtain ⟨middle, within, confirmed⟩ := After.exists_past story
    obtain ⟨later, before, reviewed⟩ := confirmed.exists_past
    obtain ⟨earlier, first, rejected⟩ := reviewed.exists_past
    exact ⟨earlier, first.trans (before.trans within), rejected⟩
theorem Rejected.accepted {stale : LiveStaleResult} (rejected : Rejected host stale history) :
    assertStaleInvariants stale = .ok () := by
  obtain ⟨_, _, proof, _, verified⟩ := rejected.exists_mem
  exact stale_accepted verified
theorem Settled.accepted {stale : LiveStaleResult} {updated : LiveUpdatedResult} (settled : Settled host stale updated history) :
    assertUpdatedInvariants updated = .ok () := by
  obtain ⟨_, _, proof, _, verified⟩ := settled.exists_mem
  exact updated_accepted verified

/-- However clicks, renders and answers interleave: no update takes the page down; the page shows a leg as running exactly
    while the adapter is at it; the second wallet approval is asked for only after an order, its proved rejection, a review
    of it and a confirmation, in this order; and what is rendered of a result was proved in that order, and passes the
    page's checks. -/
theorem page_safe (run : Run (· = Page.fresh) (Step host) history page) :
    page.crashed = none ∧ page.run.map Call.leg = runningLeg page.state ∧
    (page.run.map Call.leg = some .REFRESHED → ∃ stale, Confirmed host stale history) ∧
    (∀ stale, staleOf page.rendered = some stale →
      assertStaleInvariants stale = .ok () ∧ ∃ earlier, earlier <:+ history ∧ Rejected host stale earlier) ∧
    (∀ stale updated, page.rendered = .COMPLETED stale updated →
      assertUpdatedInvariants updated = .ok () ∧ ∃ earlier, earlier <:+ history ∧ Settled host stale updated earlier) := by
  have sound := run_sound run
  obtain ⟨shown, within, story⟩ := sound.shown
  refine ⟨sound.whole, sound.busy, fun second => ?_, fun stale holds => ?_, fun stale updated completed => ?_⟩
  · obtain ⟨call, flight, leg⟩ := Option.map_eq_some_iff.mp second
    obtain ⟨message, stale, running⟩ := sound.running flight
    have confirmed := sound.story
    rw [running, leg] at confirmed
    exact confirmed.imp fun _ found => found.2
  · obtain ⟨earlier, before, rejected⟩ := story.rejected holds
    exact ⟨rejected.accepted, earlier, before.trans within, rejected⟩
  · rw [completed] at story
    exact ⟨Settled.accepted story, shown, within, story⟩

end

/-! ### A trade that is rejected, reviewed and completed -/

def follow {Thrown : Type} (host : Host Thrown) (page : Page) (events : List (Happening Thrown)) : Option Page :=
  events.foldlM (fun page event => page.next host event) page
theorem follow_run {Thrown : Type} {host : Host Thrown} {events history : List (Happening Thrown)} {page after : Page}
    (run : Run (· = Page.fresh) (Step host) history page) (follows : follow host page events = some after) :
    Run (· = Page.fresh) (Step host) (events.reverse ++ history) after := by
  induction events generalizing history page with
  | nil =>
    cases Option.some.inj follows
    exact run
  | cons event events ih =>
    obtain ⟨next, taken, rest⟩ := Option.bind_eq_some_iff.mp follows
    rw [List.reverse_cons, List.append_assoc]
    exact ih (run.next taken) rest

def sampleHost : Host Text where
  error message := message
  message thrown := thrown
  traderFacingError _ thrown _ := (thrown, thrown)
  isSignatureCancelled _ := false
  EXPECTED_PHANTOM := "phantom"
def sampleTiming : PhaseTiming := ⟨"PENDING", "BEFORE_ACTIVATION", true⟩
def staleOutcome : ReplayOutcome where
  kind := .STALE
  signature := "first"
  slot := 7
  error := some "InstructionError"
  failedInstruction := some 0
  customCode := some 12
  guardErrorName := some "ActivationPhaseChanged"
  guardInvoked := true
  jupiterInvoked := false
  whirlpoolInvoked := false
  before := ⟨5000000, 0⟩
  after := ⟨5000000, 0⟩
  skipPreflight := true
  logs := []
  authorizationSource := LOCAL_ACTIVATION_SOURCE
def updatedOutcome : ReplayOutcome :=
  { staleOutcome with
    kind := .REFRESHED
    signature := "second"
    slot := 9
    error := none
    failedInstruction := none
    customCode := none
    guardErrorName := none
    jupiterInvoked := true
    whirlpoolInvoked := true
    after := ⟨0, 5504261⟩
    skipPreflight := false }
def sampleProof (outcome : ReplayOutcome) : LocalActivationProof where
  localT := 100
  preSign := ⟨"message", sampleTiming, "LOCAL_COORDINATOR"⟩
  signedAuthorization := ⟨"wire", "message", true, sampleTiming, true, "LOCAL_COORDINATOR"⟩
  deploymentAttestations := [⟨"digest", true⟩, ⟨"digest", true⟩]
  atSigning := 90
  atSubmission := 101
  valid := true
  signedWireHashBeforeActivation := "wire"
  signedWireHashAtSubmission := "wire"
  exactEquality := true
  outcome
def untilConfirmed : List (Happening Text) :=
  [.clicked .buy, .rendered, .loaded, .connected "phantom", .armed 100, .staged .SIGN_REQUEST none, .staged .SUBMISSION none,
    .proved (sampleProof staleOutcome), .rendered, .clicked .review, .rendered, .clicked .confirm, .rendered, .loaded,
    .staged .SIGN_REQUEST none]
def completedTrade : List (Happening Text) := untilConfirmed ++ [.proved (sampleProof updatedOutcome), .rendered]
def completedPage : Page := (follow sampleHost .fresh completedTrade).getD .fresh
theorem completedPage_follows : follow sampleHost .fresh completedTrade = some completedPage := rfl
theorem page_safe_completed : (livePanels completedPage.rendered).updated.isSome ∧
    completedPage.crashed = none ∧ completedPage.run.map Call.leg = runningLeg completedPage.state ∧
    (completedPage.run.map Call.leg = some .REFRESHED → ∃ stale, Confirmed sampleHost stale (completedTrade.reverse ++ [])) ∧
    (∀ stale, staleOf completedPage.rendered = some stale → assertStaleInvariants stale = .ok () ∧
      ∃ earlier, earlier <:+ completedTrade.reverse ++ [] ∧ Rejected sampleHost stale earlier) ∧
    (∀ stale updated, completedPage.rendered = .COMPLETED stale updated → assertUpdatedInvariants updated = .ok () ∧
      ∃ earlier, earlier <:+ completedTrade.reverse ++ [] ∧ Settled sampleHost stale updated earlier) :=
  ⟨rfl, page_safe (follow_run (.start rfl) completedPage_follows)⟩

/-! ### What a failure tells -/

section
variable {Thrown : Type} {host : Host Thrown} {history : List (Happening Thrown)} {event : Happening Thrown}
variable {state : LiveState} {leg : LiveLeg} {page after : Page}

/-- The stages that the adapter reported since its module was last called, or could not be. -/
def stagesSince : List (Happening Thrown) → List BuyStage
  | [] => []
  | .staged stage _ :: earlier => stage :: stagesSince earlier
  | .loaded :: _ | .unloadable _ :: _ => []
  | _ :: earlier => stagesSince earlier
/-- What is told of the wallet and of a submission is what the adapter reported. -/
def Told (walletRequested submitted : Bool) (history : List (Happening Thrown)) : Prop :=
  (walletRequested = true ↔ .SIGN_REQUEST ∈ stagesSince history) ∧ (submitted = true ↔ .SUBMISSION ∈ stagesSince history)
def Calling (page : Page) : Prop := ∃ call, page.run = some call ∧ ∀ leg, call ≠ .loading leg
structure Honest (history : List (Happening Thrown)) (page : Page) : Prop where
  calling : Calling page → Told page.adapter.walletRequested page.adapter.submitted history
  failed : ∀ leg failure stale, page.state = .FAILED leg failure stale → Told failure.walletRequested failure.submitted history
  /-- The adapter has the proof of a rejection that the page has. -/
  proven : (staleOf page.state).isSome → ∃ wallet localT proof, page.adapter.session = some ⟨wallet, localT, some proof⟩

theorem told_start (history : List (Happening Thrown)) (starts : stagesSince history = []) : Told false false history := by
  simp [Told, starts]
theorem told_track (adapter : Adapter) (stage : BuyStage) (clock : Option Int)
    (told : Told adapter.walletRequested adapter.submitted history) :
    Told (adapter.track stage).walletRequested (adapter.track stage).submitted (.staged stage clock :: history) := by
  obtain ⟨wallet, submission⟩ := told
  constructor
  · by_cases asks : stage = .SIGN_REQUEST
    · simp [Adapter.track, stagesSince, asks]
    · simp [Adapter.track, stagesSince, asks, wallet, Ne.symm asks]
  · by_cases sends : stage = .SUBMISSION
    · simp [Adapter.track, stagesSince, sends]
    · simp [Adapter.track, stagesSince, sends, submission, Ne.symm sends]

theorem Ahead.reviewing {stale : LiveStaleResult} (ahead : Ahead (.REVIEWING stale) state) : staleOf state = some stale := by
  rcases ahead with settles | settles
  · cases settles
    rfl
  · cases settles <;> rfl

/-- A run that fails tells what the adapter, or nobody, knows of the wallet. -/
theorem Honest.fails (honest : Honest history page) {failure : LiveFailure} {call : Call} (sound : Sound host history page)
    (flight : page.run = some call) (told : Told failure.walletRequested failure.submitted (event :: history))
    (state : after.state = withFailure page.state call.leg failure) (ended : after.run = none)
    (session : (staleOf page.state).isSome → after.adapter.session = page.adapter.session) :
    Honest (event :: history) after := by
  obtain ⟨message, stale, running⟩ := sound.running flight
  have proven := honest.proven
  rw [running] at state proven session
  exact {
    calling := by
      rintro ⟨call, flight, _⟩
      simp [ended] at flight
    failed leg known stale failed := by
      rw [state] at failed
      cases failed
      exact told
    proven held := by
      rw [state] at held
      rw [session held]
      exact proven held
  }
/-- A step of a run that goes on. -/
theorem Honest.continues (honest : Honest history page) {call : Call} (sound : Sound host history page)
    (flight : page.run = some call) (told : Told after.adapter.walletRequested after.adapter.submitted (event :: history))
    (state : after.state = page.state ∨ ∃ message, after.state = withStageMessage page.state message)
    (session : (staleOf page.state).isSome → after.adapter.session = page.adapter.session) :
    Honest (event :: history) after := by
  obtain ⟨message, stale, running⟩ := sound.running flight
  have proven := honest.proven
  rw [running] at state proven session
  obtain ⟨shown, state⟩ : ∃ shown, after.state = .RUNNING call.leg shown stale := by
    rcases state with state | ⟨shown, state⟩
    · exact ⟨message, state⟩
    · exact ⟨shown, state⟩
  exact {
    calling _ := told
    failed leg known stale failed := by
      rw [state] at failed
      cases failed
    proven held := by
      rw [state] at held
      rw [session held]
      exact proven held
  }
/-- A click that keeps the adapter as it is. -/
theorem Honest.clicked (honest : Honest history page) {action : Action} (adapter : after.adapter = page.adapter)
    (run : Calling after → Calling page) (failed : ∀ leg failure stale, after.state = .FAILED leg failure stale →
      page.state = .FAILED leg failure stale)
    (proven : (staleOf after.state).isSome → (staleOf page.state).isSome) : Honest (.clicked action :: history) after where
  calling waits := by
    rw [adapter]
    exact honest.calling (run waits)
  failed leg failure stale holds := honest.failed leg failure stale (failed leg failure stale holds)
  proven held := by
    rw [adapter]
    exact honest.proven (proven held)

theorem calling_start {before : Page} (same : before.run = page.run) (waits : Calling (before.start leg)) : Calling page := by
  unfold Page.start at waits
  split at waits
  · unfold Calling at waits
    rwa [same] at waits
  · obtain ⟨call, flight, other⟩ := waits
    cases flight
    exact absurd rfl (other leg)
theorem clicked_honest (sound : Sound host history page) (honest : Honest history page) {action : Action}
    (taken : page.next host (.clicked action) = some after) : Honest (.clicked action :: history) after := by
  obtain ⟨shown, rfl, rfl⟩ | ⟨stale, shown, rfl, rfl⟩ | ⟨stale, shown, rfl, rfl⟩ | ⟨stale, updated, shown, rfl, rfl⟩ |
    ⟨leg, failure, stale, shown, rfl, rfl⟩ := clicked_cases taken
  · refine honest.clicked (start_adapter _ _) (calling_start rfl) ?_ ?_
    · simp [beginStale]
    · simp [beginStale, staleOf]
  · refine honest.clicked rfl (fun waits => waits) ?_ ?_
    · intro leg failure known failed
      unfold withReview at failed
      dsimp only at failed
      split at failed
      · cases failed
      · exact failed
    · dsimp only
      unfold withReview
      split <;> simp_all [staleOf]
  · refine honest.clicked (start_adapter _ _) (calling_start rfl) ?_ ?_
    · simp [beginUpdated]
    · intro _
      have ahead := sound.ahead
      rw [shown] at ahead
      simp [ahead.reviewing]
  · exact honest.clicked rfl (fun waits => waits) (fun _ _ _ failed => failed) (fun held => held)
  · have ended := sound.idle shown
    rw [Page.click, if_neg (by simp [ended])]
    exact {
      calling := by
        rintro ⟨call, flight, _⟩
        simp [ended] at flight
      failed _ _ _ failed := by cases failed
      proven held := by cases held
    }

theorem called_honest (sound : Sound host history page) (honest : Honest history page) (flight : page.run = some (.loading leg)) :
    Honest (.loaded :: history) ({ page with loaded := true }.called host leg) := by
  obtain ⟨message, stale, running⟩ := sound.running flight
  have story := sound.story
  have proven := honest.proven
  rw [running] at story proven
  cases leg with
  | STALE =>
    refine honest.continues sound flight (told_start _ rfl) (.inr ⟨_, rfl⟩) fun held => ?_
    rw [running] at held
    simp [staleOf, story.1] at held
  | REFRESHED =>
    obtain ⟨rejected, rfl, _⟩ := story
    obtain ⟨wallet, localT, proof, session⟩ := proven rfl
    simp only [Page.called, session]
    exact honest.continues sound flight (told_start _ rfl) (.inl rfl) fun _ => session.symm
theorem answer_honest {Result : Type} (sound : Sound host history page) (honest : Honest history page) {call : Call}
    (flight : page.run = some call) (adapter : Adapter) (told : Told adapter.walletRequested adapter.submitted (event :: history))
    (session : (staleOf page.state).isSome → adapter.session = page.adapter.session)
    {verified : Except Text Result} {assertInvariants : Result → Except Text Unit}
    {withResult : LiveState → Result → Except Text LiveState}
    (accepted : ∀ result, assertInvariants result = .ok () → ∃ state, withResult page.state result = .ok state ∧
      (∀ leg failure stale, state ≠ .FAILED leg failure stale) ∧
      ∃ wallet localT proof, adapter.session = some ⟨wallet, localT, some proof⟩) :
    Honest (event :: history) ({ page with adapter }.answer host call.leg verified assertInvariants withResult) := by
  unfold Page.answer
  split
  · exact honest.fails sound flight told rfl rfl session
  · rename_i result
    split
    · exact honest.fails sound flight told rfl rfl session
    · rename_i checked
      obtain ⟨state, updated, succeeds, known⟩ := accepted result checked
      simp only [Page.setState, updated]
      exact {
        calling := by
          rintro ⟨_, flight, _⟩
          cases flight
        failed leg failure stale failed := absurd failed (succeeds leg failure stale)
        proven _ := known
      }
theorem proved_honest (sound : Sound host history page) (honest : Honest history page) {current : Session}
    (flight : page.run = some (.proving leg current)) (proof : LocalActivationProof) :
    Honest (.proved proof :: history) (page.proved host leg current proof) := by
  obtain ⟨message, stale, running⟩ := sound.running flight
  have story := sound.story
  have proven := honest.proven
  rw [running] at story proven
  have told : Told page.adapter.walletRequested page.adapter.submitted (.proved proof :: history) :=
    honest.calling ⟨_, flight, by simp⟩
  cases leg with
  | STALE =>
    have empty : ¬ (staleOf page.state).isSome := by simp [running, staleOf, story.1]
    unfold Page.proved
    dsimp only
    split
    · rename_i session found
      refine answer_honest sound honest flight _ ?_ (fun held => absurd held empty) fun result checked => ?_
      · exact told
      · rw [running]
        refine ⟨.STALE_VERIFIED result, ?_, by simp, session.wallet, session.localT, proof, rfl⟩
        simp only [Call.leg, withStaleResult, checked]
        rfl
    · exact honest.fails sound flight told rfl rfl (fun _ => rfl)
  | REFRESHED =>
    obtain ⟨rejected, rfl, _⟩ := story
    refine answer_honest sound honest flight page.adapter told (fun _ => rfl) fun result checked => ?_
    rw [running]
    refine ⟨.COMPLETED rejected result, ?_, by simp, proven rfl⟩
    simp only [Call.leg, withUpdatedResult, checked]
    rfl

theorem step_honest (sound : Sound host history page) (honest : Honest history page) (step : Step host page event after) :
    Honest (event :: history) after := by
  unfold Step at step
  cases event with
  | rendered =>
    cases Option.some.inj step
    exact ⟨honest.calling, honest.failed, honest.proven⟩
  | clicked action => exact clicked_honest sound honest step
  | loaded =>
    simp only [Page.next] at step
    split at step
    · rename_i leg flight
      cases Option.some.inj step
      exact called_honest sound honest flight
    · cases step
  | unloadable error =>
    simp only [Page.next] at step
    split at step
    · rename_i leg flight
      split at step
      · cases step
      · cases Option.some.inj step
        exact honest.fails sound flight (told_start _ rfl) rfl rfl (fun _ => rfl)
    · cases step
  | connected publicKey =>
    simp only [Page.next] at step
    split at step
    · rename_i flight
      have told := honest.calling ⟨_, flight, by simp⟩
      split at step
      · cases Option.some.inj step
        exact honest.continues sound flight told (.inr ⟨_, rfl⟩) (fun _ => rfl)
      · cases Option.some.inj step
        exact honest.fails sound flight told rfl rfl (fun _ => rfl)
    · cases step
  | armed localT =>
    simp only [Page.next] at step
    split at step
    · rename_i wallet flight
      obtain ⟨message, stale, running⟩ := sound.running flight
      have story := sound.story
      rw [running] at story
      cases Option.some.inj step
      refine honest.continues sound flight (honest.calling ⟨_, flight, by simp⟩) (.inl rfl) fun held => ?_
      rw [running] at held
      simp [staleOf, story.1] at held
    · cases step
  | staged stage clock =>
    simp only [Page.next] at step
    split at step
    · rename_i leg current flight
      cases Option.some.inj step
      refine honest.continues sound flight ?_ (.inr ⟨_, rfl⟩) (fun _ => rfl)
      exact told_track _ _ _ (honest.calling ⟨_, flight, by simp⟩)
    · cases step
  | proved proof =>
    simp only [Page.next] at step
    split at step
    · rename_i leg current flight
      cases Option.some.inj step
      exact proved_honest sound honest flight proof
    · cases step
  | threw error =>
    simp only [Page.next] at step
    split at step
    · cases step
    · cases step
    · rename_i call other flight
      cases Option.some.inj step
      exact honest.fails sound flight (honest.calling ⟨_, flight, other⟩) rfl rfl (fun _ => rfl)

theorem run_honest (run : Run (· = Page.fresh) (Step host) history page) : Sound host history page ∧ Honest history page := by
  induction run with
  | start fresh =>
    cases fresh
    refine ⟨fresh_sound, ?_, ?_, ?_⟩
    · rintro ⟨_, flight, _⟩
      cases flight
    · intro _ _ _ failed
      cases failed
    · intro held
      cases held
  | next _ taken ih => exact ⟨step_sound ih.1 taken, step_honest ih.1 ih.2 taken⟩

end

def cancelledTrade : List (Happening Text) := untilConfirmed ++ [.threw "User rejected the request."]
def cancelledPage : Page := (follow sampleHost .fresh cancelledTrade).getD .fresh
theorem cancelledPage_follows : follow sampleHost .fresh cancelledTrade = some cancelledPage := rfl
end EquityGuard.LiveDemo
