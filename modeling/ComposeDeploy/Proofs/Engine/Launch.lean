import ComposeDeploy.Proofs.Engine.Attempts
import ComposeDeploy.Proofs.Engine.Requests

/-!
How a client starts a container.

The container is created by one and the same request, sent until it succeeds, and then
started by a single request (`Client.start_of_created`). Only this last request can
make the start fail: as long as the creation fails, it is tried again
(`Client.start_of_failing`). So for any number of failures it is known what is sent and
what comes of it (`Client.start_retriesCreation`).
-/

namespace ComposeDeploy.Client

open Wire (Response Sent Tapped)

variable {W : Type}

/-! ### Requests -/

/-- What an attempt to create a container comes to. -/
def created (response : Response) : Except Error String :=
  (response.settled.bind (Wire.Reply.decode createdId?)).mapError Error.client

/-- What the start of a created container comes to. -/
def launched (container : String) (response : Response) : Except Error Unit :=
  (response.settled.bind fun _ => .ok ()).mapError fun failure => .start container failure.message

theorem launched_eq_ok_iff {container : String} {response : Response} :
    launched container response = .ok () ↔ ∃ reply, response.settled = .ok reply := by
  unfold launched
  cases response.settled <;> simp [Except.bind, Except.mapError]

theorem launched_eq_error_iff {container : String} {response : Response} {e : Error} :
    launched container response = .error e ↔
      ∃ failure, response.settled = .error failure ∧ e = .start container failure.message := by
  unfold launched
  cases response.settled <;> simp [Except.bind, Except.mapError, eq_comm]

section Requests

variable (client : Client W) {container : String} {configuration : Configuration}
  {w between after : W} {n : Nat} {id : String}

theorem create_on (w : W) : (client.create container configuration).on w =
    (created (client.transport (createRequest container configuration) w).1,
      (client.transport (createRequest container configuration) w).2) := by
  unfold create
  rw [step_on, ask_eq]
  rfl

/-- An attempt to create a container is one request, whatever is remembered of it. -/
theorem create_tapped {result : Except Error String}
    (tried : (client.create container configuration).on w = (result, after)) (log : List Sent) :
    ∃ response, created response = result ∧
      (client.tapped.create container configuration).on ⟨w, log⟩ =
        (result, ⟨after, log ++ [⟨createRequest container configuration, response⟩]⟩) := by
  rcases sent : client.transport (createRequest container configuration) w with ⟨response, last⟩
  rw [create_on, sent] at tried
  cases tried
  refine ⟨response, rfl, ?_⟩
  rw [create_on, client.tapped_transport (s := ⟨w, log⟩) sent]

/-- Failed attempts are as many requests, all of them the same. -/
theorem failsTimes_tapped
    (fails : (client.create container configuration).FailsTimes n w after) (log : List Sent) :
    ∃ refused : List Response, refused.length = n ∧
      (∀ response ∈ refused, ∃ e, created response = .error e) ∧
      (client.tapped.create container configuration).FailsTimes n ⟨w, log⟩
        ⟨after, log ++ refused.map fun response =>
          ⟨createRequest container configuration, response⟩⟩ := by
  induction fails generalizing log with
  | never => exact ⟨[], rfl, List.forall_mem_nil _, by simpa using .never⟩
  | again tried _ ih =>
    obtain ⟨response, failed, tried'⟩ := client.create_tapped tried log
    obtain ⟨refused, counted, allFailed, fails⟩ :=
      ih (log ++ [⟨createRequest container configuration, response⟩])
    refine ⟨response :: refused, congrArg Nat.succ counted,
      List.forall_mem_cons.mpr ⟨⟨_, failed⟩, allFailed⟩, .again tried' ?_⟩
    simpa using fails

/-! ### Starting -/

/-- Once a container is created, its start is asked for and this decides. -/
theorem start_of_created (fails : (client.create container configuration).FailsTimes n w between)
    (succeeds : (client.create container configuration).on between = (.ok id, after))
    (watched : n ≤ client.patience) : (client.start container configuration).on w =
      (launched container (client.transport (startRequest id) after).1,
        (client.transport (startRequest id) after).2) := by
  unfold start
  rw [Act.on_of, fails.told succeeds watched]
  simp only
  rw [step_on, ask_eq]
  rfl

/-- As long as the creation fails, nothing else is done. -/
theorem start_of_failing
    (fails : (client.create container configuration).FailsTimes (client.patience + 1) w after) :
    (client.start container configuration).on w = (.error (.unfinished container), after) := by
  unfold start
  rw [Act.on_of, fails.untold]

end Requests

/-! ### What is sent -/

/-- A container was created after `n` failed attempts and then started. -/
structure IsLaunched (container : String) (configuration : Configuration) (n : Nat) (id : String)
    (log : List Sent) (result : Except Error Unit) : Prop where
  /-- The same request is sent until it succeeds, then one to start what was created. -/
  requests : log.map Sent.request =
    List.replicate (n + 1) (createRequest container configuration) ++ [startRequest id]
  /-- So often it failed. -/
  refused : ∀ sent ∈ log.take n, ∃ e, created sent.response = .error e
  /-- The identifier is that of the success. -/
  told : (log[n]?.map fun sent => created sent.response) = some (.ok id)
  /-- What came back for the start decides, and a failure is told as one to start this
  container. -/
  decided : ∃ last, log.getLast? = some last ∧
    (result = .ok () ↔ ∃ reply, last.response.settled = .ok reply) ∧
    ∀ e, result = .error e ↔
      ∃ failure, last.response.settled = .error failure ∧ e = .start container failure.message

theorem IsLaunched.of_responses {container : String} {configuration : Configuration} {id : String}
    {refused : List Response} {response started : Response}
    (allFailed : ∀ response ∈ refused, ∃ e, created response = .error e)
    (told : created response = .ok id) :
    IsLaunched container configuration refused.length id
      (refused.map (⟨createRequest container configuration, ·⟩) ++
        [⟨createRequest container configuration, response⟩, ⟨startRequest id, started⟩])
      (launched container started) where
  requests := by
    rw [List.map_append, List.map_map, List.replicate_succ']
    simp [Function.comp_def]
  refused := by
    rw [List.take_left' (List.length_map _)]
    exact List.forall_mem_map.mpr allFailed
  told := by
    rw [List.getElem?_append_right (Nat.le_of_eq (List.length_map _)), List.length_map,
      Nat.sub_self]
    exact congrArg some told
  decided := ⟨_, by rw [List.getLast?_append]; rfl, launched_eq_ok_iff,
    fun _ => launched_eq_error_iff⟩

/-- What is sent to start a container from the world `w`, and what becomes of it. -/
structure StartsOnce (client : Client W) (container : String) (configuration : Configuration)
    (w : W) (log : List Sent) (result : Except Error Unit) : Prop where
  /-- However often the creation fails, it is tried until it succeeds. -/
  launched {n : Nat} {between after : W} {id : String} :
    (client.create container configuration).FailsTimes n w between →
    (client.create container configuration).on between = (.ok id, after) →
    n ≤ client.patience → IsLaunched container configuration n id log result
  /-- Until then it is tried and nothing else is done. -/
  trying {after : W} :
    (client.create container configuration).FailsTimes (client.patience + 1) w after →
    log.map Sent.request =
        List.replicate (client.patience + 1) (createRequest container configuration) ∧
      result = .error (.unfinished container)
  /-- No failure to create a container is ever told. -/
  failed {e : Error} : result = .error e →
    e = .unfinished container ∨ ∃ reason, e = .start container reason

section Start

variable {client : Client W} {container : String} {configuration : Configuration}
  {w between after : W} {n : Nat} {id : String}

/-- A container that is created at last is started, whether the requests are remembered
or not. -/
theorem start_launches (fails : (client.create container configuration).FailsTimes n w between)
    (succeeds : (client.create container configuration).on between = (.ok id, after))
    (watched : n ≤ client.patience) :
    let run := (client.tapped.start container configuration).on ⟨w, []⟩
    IsLaunched container configuration n id run.2.log run.1 ∧
      (client.start container configuration).on w = (run.1, run.2.world) := by
  intro run
  obtain ⟨refused, rfl, allFailed, fails'⟩ := client.failsTimes_tapped fails []
  obtain ⟨response, told, succeeds'⟩ := client.create_tapped succeeds _
  rcases sent : client.transport (startRequest id) after with ⟨started, last⟩
  have ran : run = (launched container started, ⟨last,
      refused.map (⟨createRequest container configuration, ·⟩) ++
        [⟨createRequest container configuration, response⟩, ⟨startRequest id, started⟩]⟩) := by
    refine (client.tapped.start_of_created fails' succeeds' watched).trans ?_
    rw [client.tapped_transport sent]
    simp
  rw [ran, client.start_of_created fails succeeds watched, sent]
  exact ⟨.of_responses allFailed told, rfl⟩

/-- A container whose creation keeps failing is not started, whether the requests are
remembered or not. -/
theorem start_tries
    (fails : (client.create container configuration).FailsTimes (client.patience + 1) w after) :
    let run := (client.tapped.start container configuration).on ⟨w, []⟩
    (run.2.log.map Sent.request =
        List.replicate (client.patience + 1) (createRequest container configuration) ∧
      run.1 = .error (.unfinished container)) ∧
      (client.start container configuration).on w = (run.1, run.2.world) := by
  intro run
  obtain ⟨refused, counted, _, fails'⟩ := client.failsTimes_tapped fails []
  have ran : run = (.error (.unfinished container), _) := client.tapped.start_of_failing fails'
  rw [ran, client.start_of_failing fails]
  refine ⟨⟨?_, rfl⟩, rfl⟩
  rw [List.nil_append, List.map_map, ← counted]
  simp [Function.comp_def]

end Start

/-- A step that is repeated is called until its first success and never after it, with
the same pause after each failure. So a container is created by as many requests as that
takes, all of them the same, and started by one request: only the failure of this one is
told. -/
theorem start_retriesCreation :
    (∀ {W α : Type} (step : Act W α) (interval : Nat) (w : W), step.IsRetried interval w) ∧
    ∀ {W : Type} (client : Client W) (container : String) (configuration : Configuration)
      (w : W),
      let run := (client.tapped.start container configuration).on ⟨w, []⟩
      client.StartsOnce container configuration w run.2.log run.1 ∧
        (client.start container configuration).on w = (run.1, run.2.world) := by
  refine ⟨Act.isRetried, ?_⟩
  intro W client container configuration w run
  have ends : (∀ e, run.1 = .error e →
        e = .unfinished container ∨ ∃ reason, e = .start container reason) ∧
      (client.start container configuration).on w = (run.1, run.2.world) := by
    rcases (client.create container configuration).failsTimes_or_succeeds
        (client.patience + 1) w with ⟨after, fails⟩ | ⟨n, between, id, after, early, fails, succeeds⟩
    · obtain ⟨⟨_, unfinished⟩, same⟩ := start_tries fails
      refine ⟨fun e failed => .inl ?_, same⟩
      cases unfinished.symm.trans failed
      rfl
    · obtain ⟨isLaunched, same⟩ := start_launches fails succeeds (Nat.le_of_lt_succ early)
      obtain ⟨_, _, _, told⟩ := isLaunched.decided
      refine ⟨fun e failed => .inr ?_, same⟩
      obtain ⟨failure, _, rfl⟩ := (told e).mp failed
      exact ⟨_, rfl⟩
  exact ⟨⟨fun fails succeeds watched => (start_launches fails succeeds watched).1,
    fun fails => (start_tries fails).1, fun failed => ends.1 _ failed⟩, ends.2⟩

/-- The replies of an engine that creates a container at the third attempt, after a
refusal and a reply that cannot be read, and then cannot start it. -/
def lateCreation : Wire.Replies :=
  let reply (status : Nat) (body : String) : Wire.Reply := ⟨status, body.toUTF8⟩
  .ofList [("POST /containers/create",
      [reply 500 "", reply 201 "", reply 201 "\x7b\"Id\":\"c7\"\x7d"]),
    ("POST /containers/c7/start", [reply 409 "\x7b\"message\":\"port in use\"\x7d"])]

/-- The client that meets it. -/
def lateClient : Client Wire.Replies := ⟨"east", Wire.Replies.transport, 5000, 2⟩

/-- So the container is asked for three times, and its start is refused. -/
theorem start_retriesCreation_late :
    let run := (lateClient.tapped.start "web" .empty).on ⟨lateCreation, []⟩
    IsLaunched "web" .empty 2 "c7" run.2.log run.1 ∧
      run.1 = .error (.start "web" "Docker responded with status code 409: port in use") := by
  have refused : ((lateClient.create "web" .empty).on lateCreation).1 =
      .error (.client (.response 500 "")) := by
    decide +kernel
  have unread : ((lateClient.create "web" .empty).on
      ((lateClient.create "web" .empty).on lateCreation).2).1 =
        .error (.client (.malformed .syntaxError)) := by
    decide +kernel
  have succeeds : ((lateClient.create "web" .empty).on ((lateClient.create "web" .empty).on
      ((lateClient.create "web" .empty).on lateCreation).2).2).1 = .ok "c7" := by
    decide +kernel
  have fails : (lateClient.create "web" .empty).FailsTimes 2 lateCreation _ :=
    .again (Prod.ext refused rfl) (.again (Prod.ext unread rfl) .never)
  obtain ⟨starts, _⟩ := start_retriesCreation.2 lateClient "web" .empty lateCreation
  exact ⟨starts.launched fails (Prod.ext succeeds rfl) (Nat.le_refl 2), by decide +kernel⟩

end ComposeDeploy.Client
