import AlignedLedger.Proofs.Board.Circuits

/-! Boards over whole runs: posts and take-downs in any order, each on the state that the last call to
succeed has left. What a board shows tells its history, and takes turns with it. -/

namespace AlignedLedger.Board

inductive Action where
  | post (key : Bytes) (message : String)
  | takeDown (key : Bytes)

/-- Makes the call on a state, with the secret key as the private state. -/
def Action.run [Memory] (cfg : Config) (rates : Tariff) (address : Bytes) (state : ChargedState) :
    Action → Except Fault CircuitResult
  | .post key message =>
    Board.post cfg secretKeyWitnesses (.make state address (.bytes key) rates) (.text message)
  | .takeDown key => Board.takeDown cfg secretKeyWitnesses (.make state address (.bytes key) rates)

structure History where
  state : ChargedState
  /-- The calls that have succeeded, oldest first, each with what it gave. -/
  calls : List (Action × Datum)

namespace History

def start (state : ChargedState) : History := ⟨state, []⟩

/-- A call that fails leaves the history as it is. -/
def step [Memory] (cfg : Config) (rates : Tariff) (address : Bytes) (h : History) (a : Action) : History :=
  match a.run cfg rates address h.state with
  | .ok res => ⟨res.context.current, h.calls ++ [(a, res.result)]⟩
  | .error _ => h

def play [Memory] (cfg : Config) (rates : Tariff) (address : Bytes) (h : History) (as : List Action) : History :=
  as.foldl (step cfg rates address) h

/-- Each take-down comes right after a post, and gives its message to a key that counts as the one
that posted. The number of calls before a post is its sequence number. -/
def TakesDownPosts (h : History) : Prop :=
  ∀ i key result, h.calls[i]? = some (.takeDown key, result) →
    ∃ j poster message, i = j + 1 ∧ h.calls[j]? = some (.post poster message, .null) ∧
      result = .text message ∧
      publicKey key (sequenceBytes j) = publicKey poster (sequenceBytes j)

/-- The view is what the calls so far make of a fresh board. -/
structure Tells [Memory] (h : History) (v : View) : Prop where
  shows : Shows v h.state.tree
  sequence : v.sequence = h.calls.length
  vacant : v.state = .vacant → v.message = none ∧ v.sequence % 2 = 0
  occupied : v.state = .occupied → v.sequence % 2 = 1 ∧ ∃ key message,
    h.calls.getLast? = some (.post key message, .null) ∧ v.message = some message ∧
      v.owner = publicKey key (sequenceBytes (v.sequence - 1))
  takesDownPosts : h.TakesDownPosts

variable {cfg : Config} {rates : Tariff} {address : Bytes} {h : History} {v : View}

theorem tells_start [Memory] {state : ChargedState} (hs : Shows fresh state.tree) :
    Tells (start state) fresh where
  shows := hs
  sequence := rfl
  vacant := fun _ => ⟨rfl, rfl⟩
  occupied := by rintro ⟨⟩
  takesDownPosts := by simp [TakesDownPosts, start]

theorem TakesDownPosts.append (ht : h.TakesDownPosts) (state : ChargedState) {call : Action × Datum}
    (hcall : ∀ key result, call = (.takeDown key, result) →
      ∃ j poster message, h.calls.length = j + 1 ∧
        h.calls[j]? = some (.post poster message, .null) ∧ result = .text message ∧
        publicKey key (sequenceBytes j) = publicKey poster (sequenceBytes j)) :
    TakesDownPosts ⟨state, h.calls ++ [call]⟩ := by
  intro i key result hi
  have hfront : ∀ {j : Nat} {x}, h.calls[j]? = some x → (h.calls ++ [call])[j]? = some x := by
    intro j x hj
    rw [List.getElem?_append_left (List.getElem?_eq_some_iff.mp hj).1, hj]
  rcases Nat.lt_or_ge i h.calls.length with hlt | hge
  · rw [List.getElem?_append_left hlt] at hi
    obtain ⟨j, poster, message, hij, hj, hr, hk⟩ := ht i key result hi
    exact ⟨j, poster, message, hij, hfront hj, hr, hk⟩
  · rw [List.getElem?_append_right hge, List.getElem?_singleton] at hi
    split at hi
    · next hz =>
      obtain ⟨j, poster, message, hij, hj, hr, hk⟩ := hcall key result (Option.some.inj hi)
      exact ⟨j, poster, message, by omega, hfront hj, hr, hk⟩
    · simp at hi

variable [Memory]

theorem Tells.step (hc : cfg.HoldsBoard) (ht : h.Tells v) (a : Action) :
    ∃ w, (h.step cfg rates address a).Tells w := by
  unfold History.step
  cases hrun : a.run cfg rates address h.state with
  | error e => exact ⟨v, ht⟩
  | ok res =>
    cases a with
    | post key message =>
      obtain ⟨hvacant, hresult, hs⟩ := post_eq_ok hc ht.shows rfl hrun
      have heven := (ht.vacant hvacant).2
      refine ⟨_, hs, by simp [ht.sequence], by simp, fun _ => ⟨by dsimp only; omega, ?_⟩, ?_⟩
      · exact ⟨key, message, by simp [hresult], rfl, rfl⟩
      · exact ht.takesDownPosts.append _ (by simp)
    | takeDown key =>
      obtain ⟨hoccupied, hle, howner, hresult, hs⟩ := takeDown_eq_ok hc ht.shows rfl hrun
      obtain ⟨hodd, poster, message, hlast, hm, hposter⟩ := ht.occupied hoccupied
      refine ⟨_, hs, by simp [ht.sequence], fun _ => ⟨rfl, by dsimp only; omega⟩, by simp, ?_⟩
      refine ht.takesDownPosts.append _ ?_
      rintro _ _ ⟨⟩
      rw [List.getLast?_eq_getElem?, ← ht.sequence] at hlast
      exact ⟨v.sequence - 1, poster, message, by rw [← ht.sequence]; omega, hlast,
        by rw [hresult, hm]; rfl, howner.symm.trans hposter⟩

theorem Tells.play (hc : cfg.HoldsBoard) (ht : h.Tells v) (as : List Action) :
    ∃ w, (h.play cfg rates address as).Tells w := by
  induction as generalizing h v with
  | nil => exact ⟨v, ht⟩
  | cons a as ih =>
    obtain ⟨w, hw⟩ := ht.step hc a
    exact ih hw

end History

/-- From a fresh board on, whatever posts and take-downs are tried with whatever keys, what the board
shows can be read. It is occupied when it has a message, and when its sequence number is odd, which is the
number of calls that have succeeded. The message is then that of the last of them, a post, and the owner
is the key of who made it. Each take-down gives back the message of the post right before it, to a secret
key that owns it. -/
theorem board_tells_history [Memory] {env : Environment} (hcap : 4 ≤ (Config.ofEnvironment env).maxArrayLength)
    {address : Datum} {b : Bytes} (haddress : Address.ofDatum address = .ok b) (privateState : Datum)
    (rates : Tariff) :
    let cfg := Config.ofEnvironment env
    ∃ c, initialState cfg address privateState = .ok c ∧ ∀ actions : List Action,
      let h := (History.start c.current).play cfg rates b actions
      ∃ v, View.ofTree cfg h.state.tree = .ok v ∧
        (v.state = .occupied ↔ v.message.isSome = true) ∧
        (v.state = .occupied ↔ v.sequence % 2 = 1) ∧
        v.sequence = h.calls.length ∧
        (v.state = .occupied → ∃ key message,
          h.calls.getLast? = some (.post key message, .null) ∧ v.message = some message ∧
            v.owner = publicKey key (sequenceBytes (v.sequence - 1))) ∧
        (v.state = .vacant → v.message = none) ∧
        ∀ i key result, h.calls[i]? = some (.takeDown key, result) →
          ∃ j poster message, i = j + 1 ∧ h.calls[j]? = some (.post poster message, .null) ∧
            result = .text message ∧
            publicKey key (sequenceBytes j) = publicKey poster (sequenceBytes j) := by
  intro cfg
  have hc := Config.holdsBoard_ofEnvironment hcap
  obtain ⟨c, hinit, hfresh⟩ := exists_initialState hc haddress privateState
  refine ⟨c, hinit, fun actions => ?_⟩
  obtain ⟨v, hv⟩ := (History.tells_start hfresh).play hc actions
  refine ⟨v, hv.shows.ofTree hc, ?_, ?_, hv.sequence, fun ho => (hv.occupied ho).2,
    fun hz => (hv.vacant hz).1, hv.takesDownPosts⟩
  · cases hstate : v.state with
    | vacant => simp [(hv.vacant hstate).1]
    | occupied =>
      obtain ⟨-, _, _, -, hm, -⟩ := hv.occupied hstate
      simp [hm]
  · cases hstate : v.state with
    | vacant => simp [(hv.vacant hstate).2]
    | occupied => simp [(hv.occupied hstate).1]

/-- A second post and a take-down by someone else fail, and the board ends vacant after two calls. -/
theorem history_of_refused_calls :
    let cfg := Config.ofEnvironment fun _ => none
    let key : Bytes := List.replicate 32 1
    let other : Bytes := List.replicate 32 2
    let actions : List Action := [.post key "hi", .post other "ho", .takeDown other, .takeDown key]
    4 ≤ cfg.maxArrayLength ∧ Address.ofDatum (.bytes Address.dummy) = .ok Address.dummy ∧
      ∃ c v, initialState cfg (.bytes Address.dummy) .null = .ok c ∧
        View.ofTree cfg ((History.start c.current).play cfg Tariff.standard Address.dummy actions).state.tree =
          .ok v ∧ v.state = .vacant ∧ v.message = none ∧ v.sequence = 2 := by
  intro cfg key other actions
  have hcap : 4 ≤ cfg.maxArrayLength := by decide +kernel
  have haddress : Address.ofDatum (.bytes Address.dummy) = .ok Address.dummy := rfl
  have hcount : (initialState cfg (.bytes Address.dummy) .null).toOption.map (fun c =>
      ((History.start c.current).play cfg Tariff.standard Address.dummy actions).calls.length) =
        some 2 := by
    decide +kernel
  obtain ⟨c, hinit, hall⟩ := board_tells_history hcap haddress .null Tariff.standard
  obtain ⟨v, hview, -, hodd, hlength, -, hvacant, -⟩ := hall actions
  rw [hinit, Except.toOption, Option.map_some, Option.some.injEq] at hcount
  have hsequence : v.sequence = 2 := hlength.trans hcount
  have hstate : v.state = .vacant := by
    cases hs : v.state with
    | vacant => rfl
    | occupied =>
      have hh := hodd.mp hs
      omega
  exact ⟨hcap, haddress, c, v, hinit, hview, hstate, hvacant hstate, hsequence⟩

end AlignedLedger.Board
