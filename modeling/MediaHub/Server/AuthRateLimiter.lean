import MediaHub.Http.Hmac
import MediaHub.Window.FixedWindow

namespace MediaHub.Server

open Relational FixedWindow Result
open Text (isAsciiControl)
open MediaHub.Http
open MediaHub.Http.Hmac (ApiError ControlCrypto hexEncode utf8)

/-- In nanoseconds. -/
def seconds (n : Nat) : Nat := n * 1000000000

/-- The bucket of a key. -/
structure AuthRateBucket where
  key : Text
  windowStarted : Nat
  attempts : Nat

instance : Keyed AuthRateBucket Text := ⟨AuthRateBucket.key⟩

namespace AuthRateBucket

def elapsed (bucket : AuthRateBucket) (now : Nat) : Nat := now - bucket.windowStarted

def restart (window now : Nat) : Update AuthRateBucket where
  apply bucket :=
    if window ≤ bucket.elapsed now then { bucket with windowStarted := now, attempts := 0 }
    else bucket
  key_apply bucket := by
    split <;> rfl

def attempt : Update AuthRateBucket where
  apply bucket := { bucket with attempts := bucket.attempts + 1 }
  key_apply _ := rfl

end AuthRateBucket

structure AuthRateLimiter where
  buckets : Table AuthRateBucket

namespace AuthRateLimiter

def new : AuthRateLimiter := ⟨∅⟩

/-- `buckets.retain` when there are more than 4096. -/
def retain (limiter : AuthRateLimiter) (now : Nat) : AuthRateLimiter :=
  if 4096 < limiter.buckets.rows.length then
    ⟨limiter.buckets.deleteWhere fun bucket => !(bucket.elapsed now < seconds 3600)⟩
  else limiter

/-- `check` after `retain`. -/
def grant (limiter : AuthRateLimiter) (key : Text) (limit window now : Nat) :
    Except ApiError Unit × AuthRateLimiter :=
  let entered := limiter.buckets.insert ⟨key, now, 0⟩
  let current := entered.update key (AuthRateBucket.restart window now)
  if (current.find? key).any (limit ≤ ·.attempts) then (.error ApiError.rateLimited, ⟨current⟩)
  else (.ok (), ⟨current.update key AuthRateBucket.attempt⟩)

def check (limiter : AuthRateLimiter) (key : Text) (limit window now : Nat) :
    Except ApiError Unit × AuthRateLimiter :=
  (limiter.retain now).grant key limit window now

end AuthRateLimiter

inductive IdentityError where
  | invalidEmail
deriving DecidableEq

def normalizeEmail (value : Text) : Except IdentityError Text :=
  let normalized := toAsciiLowercase (trim value)
  match Text.splitOnce '@' normalized with
  | none => .error .invalidEmail
  | some (name, domain) =>
      if name.isEmpty || domain.isEmpty || 320 < Utf8.byteLength normalized ||
          normalized.any isAsciiControl || domain.head? = some '.' || domain.getLast? = some '.' ||
          !domain.contains '.' then
        .error .invalidEmail
      else .ok normalized

theorem normalizeEmail_ok {value email : Text} (h : normalizeEmail value = .ok email) :
    toAsciiLowercase (trim value) = email := by
  rw [normalizeEmail] at h
  split at h
  · simp at h
  · split at h
    · simp at h
    · exact Except.ok.inj h

/-- What a handler hands to `enforce_auth_rate_limit`. -/
structure AuthOperation where
  name : Text
  ipLimit : Nat
  subjectLimit : Nat
  window : Nat

namespace AuthOperation

def login : AuthOperation := ⟨"login".toList, 30, 10, seconds (60 * 15)⟩
def forgot : AuthOperation := ⟨"forgot".toList, 10, 3, seconds (60 * 60)⟩

variable [ControlCrypto]

def tokenHash (token : Text) : Text := hexEncode (ControlCrypto.sha256 (utf8 token))

def ipKey (operation : AuthOperation) (ip : Text) : Text :=
  operation.name ++ ":ip:".toList ++ tokenHash ip

def subjectKey (operation : AuthOperation) (subject : Text) : Text :=
  operation.name ++ ":subject:".toList ++ tokenHash (toAsciiLowercase (trim subject))

/-- `enforce_auth_rate_limit`: the two checks read the clock one after the other. -/
def enforce (operation : AuthOperation) (limiter : AuthRateLimiter) (ip : Text)
    (subject : Option Text) (ipCheckedAt subjectCheckedAt : Nat) :
    Except ApiError Unit × AuthRateLimiter :=
  match limiter.check (operation.ipKey ip) operation.ipLimit operation.window ipCheckedAt with
  | (.error error, limiter) => (.error error, limiter)
  | (.ok (), limiter) =>
      match subject with
      | none => (.ok (), limiter)
      | some subject =>
          limiter.check (operation.subjectKey subject) operation.subjectLimit operation.window
            subjectCheckedAt

end AuthOperation

namespace AuthRateLimiter

/-- What a caller takes a check for: the key alone decides about the limit and the window. -/
abbrev Settings := Text → Rate

/-- What checks answer, one after the other. -/
def results (perform : AuthRateLimiter → Text → Nat → Nat → Nat →
    Except ApiError Unit × AuthRateLimiter) (settings : Settings) :
    AuthRateLimiter → List (Call Text) → List (Except ApiError Unit)
  | _, [] => []
  | limiter, call :: calls =>
      let answer :=
        perform limiter call.key (settings call.key).limit (settings call.key).window call.now
      answer.1 :: results perform settings answer.2 calls

def counter (bucket : AuthRateBucket) : Counter := ⟨bucket.windowStarted, bucket.attempts⟩

def counters (limiter : AuthRateLimiter) (key : Text) : Option Counter :=
  (limiter.buckets.find? key).map counter

def answer (admitted : Bool) : Except ApiError Unit :=
  if admitted then .ok () else .error ApiError.rateLimited

section

variable {buckets : Table AuthRateBucket} {bucket : Option AuthRateBucket} {rate : Rate}
  {key : Text} {now : Nat}

theorem find?_insert_new (k : Text) :
    (buckets.insert ⟨key, now, 0⟩).find? k =
      if key = k then some ((buckets.find? key).getD ⟨key, now, 0⟩) else buckets.find? k := by
  cases hfind : buckets.find? key with
  | none => exact Table.find?_insert hfind k
  | some bucket =>
      have htaken : buckets.insert (⟨key, now, 0⟩ : AuthRateBucket) = buckets := by
        have hkey : Keyed.key (⟨key, now, 0⟩ : AuthRateBucket) = key := rfl
        refine Table.insert_of_taken ?_
        rw [hkey, hfind]
        rfl
      rw [htaken]
      split
      · next heq => rw [← heq, hfind, Option.getD_some]
      · rfl

theorem counter_restart :
    counter (AuthRateBucket.restart rate.window now (bucket.getD ⟨key, now, 0⟩)) =
      rate.current now (bucket.map counter) := by
  have hended : ∀ bucket : AuthRateBucket, rate.window ≤ now - bucket.windowStarted →
      counter (AuthRateBucket.restart rate.window now bucket) = ⟨now, 0⟩ :=
    fun bucket h => congrArg counter (if_pos h)
  have hrunning : ∀ bucket : AuthRateBucket, ¬ rate.window ≤ now - bucket.windowStarted →
      counter (AuthRateBucket.restart rate.window now bucket) = counter bucket :=
    fun bucket h => congrArg counter (if_neg h)
  cases bucket with
  | none =>
      rw [Option.getD_none, Option.map_none, Rate.current]
      by_cases h : rate.window ≤ now - now
      · exact hended ⟨key, now, 0⟩ h
      · exact hrunning ⟨key, now, 0⟩ h
  | some bucket =>
      rw [Option.getD_some, Option.map_some, Rate.current]
      split
      · next h => exact hended bucket h
      · next h => exact hrunning bucket h

end

/-- What a check does to the counters. -/
theorem grant_spec (limiter : AuthRateLimiter) (call : Call Text) (rate : Rate) :
    (limiter.grant call.key rate.limit rate.window call.now).1 =
        answer (rate.admits call.now (limiter.counters call.key)) ∧
      (limiter.grant call.key rate.limit rate.window call.now).2.counters =
        Function.update limiter.counters call.key
          (some (rate.next call.now (limiter.counters call.key))) := by
  obtain ⟨key, now⟩ := call
  let current := AuthRateBucket.restart rate.window now
    ((limiter.buckets.find? key).getD ⟨key, now, 0⟩)
  let entered := (limiter.buckets.insert ⟨key, now, 0⟩).update key
    (AuthRateBucket.restart rate.window now)
  have hcurrent : counter current = rate.current now (limiter.counters key) := counter_restart
  have hfind : entered.find? key = some current := by
    rw [Table.find?_update_self, find?_insert_new, if_pos rfl, Option.map_some]
  have hothers : ∀ k, k ≠ key → entered.find? k = limiter.buckets.find? k := by
    intro k hk
    rw [Table.find?_update_ne hk, find?_insert_new, if_neg (Ne.symm hk)]
  have hadmits :
      rate.admits now (limiter.counters key) = decide (current.attempts < rate.limit) := by
    rw [Rate.admits, ← hcurrent]
    rfl
  have hgrant : limiter.grant key rate.limit rate.window now =
      if (entered.find? key).any (rate.limit ≤ ·.attempts) then
        (.error ApiError.rateLimited, ⟨entered⟩)
      else (.ok (), ⟨entered.update key AuthRateBucket.attempt⟩) := rfl
  rw [hfind, Option.any_some] at hgrant
  by_cases hlimit : current.attempts < rate.limit
  · rw [if_neg (by simpa using hlimit)] at hgrant
    rw [hgrant, Rate.next, hadmits, decide_eq_true hlimit, ← hcurrent]
    refine ⟨rfl, funext fun k => ?_⟩
    by_cases hk : k = key
    · subst hk
      rw [Function.update_self, counters, Table.find?_update_self, hfind]
      rfl
    · rw [Function.update_of_ne hk, counters, Table.find?_update_ne hk, hothers k hk, counters]
  · rw [if_pos (by simpa using hlimit)] at hgrant
    rw [hgrant, Rate.next, hadmits, decide_eq_false hlimit, ← hcurrent]
    refine ⟨rfl, funext fun k => ?_⟩
    by_cases hk : k = key
    · subst hk
      rw [Function.update_self, counters, hfind]
      rfl
    · rw [Function.update_of_ne hk, counters, hothers k hk, counters]

/-- A key without a bucket gets one, which its first attempt is counted in. -/
theorem grant_fresh {limiter : AuthRateLimiter} {key : Text}
    (hfresh : limiter.buckets.find? key = none) {limit : Nat} (hlimit : 0 < limit)
    (window now : Nat) :
    (limiter.grant key limit window now).2.buckets.rows =
      ⟨key, now, 1⟩ :: limiter.buckets.rows := by
  have hentered : (limiter.buckets.insert ⟨key, now, 0⟩).rows =
      ⟨key, now, 0⟩ :: limiter.buckets.rows := Table.insert_rows hfresh
  have hrestart : AuthRateBucket.restart window now ⟨key, now, 0⟩ = ⟨key, now, 0⟩ := by
    change (if _ then _ else _) = _
    split <;> rfl
  have hcurrent := Table.update_rows_cons hentered (AuthRateBucket.restart window now)
  rw [hrestart] at hcurrent
  have hfound : (((limiter.buckets.insert ⟨key, now, 0⟩).update key
      (AuthRateBucket.restart window now)).find? key).any (limit ≤ ·.attempts) = false := by
    rw [Table.find?_update_self, find?_insert_new, if_pos rfl, hfresh, Option.getD_none,
      Option.map_some, hrestart]
    simpa using Nat.pos_iff_ne_zero.1 hlimit
  rw [grant, hfound]
  exact Table.update_rows_cons hcurrent AuthRateBucket.attempt

/-- The limiter that calls leave. -/
def after (settings : Settings) (limiter : AuthRateLimiter) (calls : List (Call Text)) :
    AuthRateLimiter :=
  calls.foldl (fun limiter call => (limiter.check call.key (settings call.key).limit
    (settings call.key).window call.now).2) limiter

/-- Keys that call for the first time are all kept as long as there is room for them. -/
theorem after_fresh {settings : Settings} (hlimit : ∀ key, 0 < (settings key).limit) (now : Nat)
    {keys : List Text} {limiter : AuthRateLimiter}
    (hkeys : (keys ++ limiter.buckets.rows.map AuthRateBucket.key).Nodup)
    (hroom : keys.length + limiter.buckets.rows.length ≤ 4097) :
    (limiter.after settings (keys.map fun key => ⟨key, now⟩)).buckets.rows =
      (keys.reverse.map fun key => ⟨key, now, 1⟩) ++ limiter.buckets.rows := by
  induction keys generalizing limiter with
  | nil => rfl
  | cons key keys ih =>
      rw [List.length_cons] at hroom
      obtain ⟨hkey, hkeys⟩ := List.nodup_cons.1 hkeys
      have hretain : limiter.retain now = limiter := if_neg (by omega)
      have hfresh : limiter.buckets.find? key = none := Table.find?_eq_none_iff.2 fun bucket hbucket
        heq => hkey (List.mem_append_right _ (List.mem_map.2 ⟨bucket, hbucket, heq⟩))
      have hrows := grant_fresh hfresh (hlimit key) (settings key).window now
      rw [List.map_cons, after, List.foldl_cons, check, hretain, ← after, ih, hrows,
        List.reverse_cons, List.map_append, List.append_assoc]
      · rfl
      · rw [hrows, List.map_cons]
        exact (List.perm_middle.nodup_iff).2 (List.nodup_cons.2 ⟨hkey, hkeys⟩)
      · rw [hrows, List.length_cons]
        omega

theorem forgets_retain (limiter : AuthRateLimiter) (now : Nat) :
    Forgets (seconds 3600) now limiter.counters (limiter.retain now).counters := by
  rw [retain]
  split
  · intro key
    rw [counters, counters, Table.find?_deleteWhere]
    cases hfind : limiter.buckets.find? key with
    | none => exact Or.inl rfl
    | some bucket =>
        by_cases hold : bucket.elapsed now < seconds 3600
        · rw [Option.filter_some_pos (by simpa using hold)]
          exact Or.inl rfl
        · rw [Option.filter_some_neg (by simpa using hold)]
          exact Or.inr ⟨rfl, counter bucket, rfl, Nat.not_lt.1 hold⟩
  · exact Forgets.refl _ _ _

/-- A limiter that never evicts answers as the counters do. -/
theorem results_grant (settings : Settings) (limiter : AuthRateLimiter)
    (calls : List (Call Text)) :
    results grant settings limiter calls =
      (answers settings limiter.counters calls).map answer := by
  induction calls generalizing limiter with
  | nil => rfl
  | cons call calls ih =>
      obtain ⟨hanswer, hcounters⟩ := limiter.grant_spec call (settings call.key)
      rw [results, answers, List.map_cons, hanswer, ih, hcounters, step]

/-- No call is answered differently because other keys were evicted. -/
theorem results_check {settings : Settings}
    (hsettings : ∀ key, (settings key).window ≤ seconds 3600)
    {limiter other : AuthRateLimiter} {calls : List (Call Text)}
    (hsorted : calls.Pairwise (·.now ≤ ·.now))
    (h : ∀ call ∈ calls, Forgets (seconds 3600) call.now other.counters limiter.counters) :
    results check settings limiter calls = results grant settings other calls := by
  induction calls generalizing limiter other with
  | nil => rfl
  | cons call calls ih =>
      obtain ⟨hlater, hsorted'⟩ := List.pairwise_cons.1 hsorted
      have hforgets := (h call List.mem_cons_self).trans (limiter.forgets_retain call.now)
      obtain ⟨hanswer, hcounters⟩ := (limiter.retain call.now).grant_spec call (settings call.key)
      obtain ⟨hanswer', hcounters'⟩ := other.grant_spec call (settings call.key)
      have hstep := hforgets.step (hsettings call.key)
      rw [results, results, check, hanswer, hanswer',
        hforgets.admits_eq (hsettings call.key)]
      congr 1
      refine ih hsorted' fun next hnext => ?_
      rw [hcounters, hcounters']
      exact hstep.later (hlater next hnext)

/-- The moments at which a key was let through. -/
def acceptedAt (settings : Settings) (key : Text) (calls : List (Call Text)) : List Nat :=
  acceptedOf key calls ((results check settings new calls).map Except.toBool)

theorem acceptedAt_eq {settings : Settings}
    (hsettings : ∀ key, (settings key).window ≤ seconds 3600)
    {calls : List (Call Text)} (hsorted : calls.Pairwise (·.now ≤ ·.now)) (key : Text) :
    acceptedAt settings key calls = (settings key).accepted none (momentsOf key calls) := by
  have hbool : Except.toBool ∘ answer = id := by
    funext admitted
    cases admitted <;> rfl
  have hresults : results check settings new calls = results grant settings new calls :=
    results_check hsettings hsorted fun _ _ => Forgets.refl _ _ _
  rw [acceptedAt, hresults, results_grant, List.map_map, hbool, List.map_id,
    acceptedOf_answers]
  rfl

end AuthRateLimiter

/-- Eviction changes no answer; a key has at most `limit` calls in each of its
windows, and so at most twice as many in an interval as long as a window; and the spellings of an
account share one key. -/
theorem authRateLimiter_bounds [ControlCrypto] {settings : AuthRateLimiter.Settings}
    (hsettings : ∀ key, (settings key).window ≤ seconds 3600) {calls : List (Call Text)}
    (hsorted : calls.Pairwise (·.now ≤ ·.now)) :
    AuthRateLimiter.results AuthRateLimiter.check settings .new calls =
        AuthRateLimiter.results AuthRateLimiter.grant settings .new calls ∧
      (∀ key, ∀ window ∈ windows (settings key).window
        (AuthRateLimiter.acceptedAt settings key calls),
          window.length ≤ (settings key).limit) ∧
      (∀ key t, ((AuthRateLimiter.acceptedAt settings key calls).filter fun moment =>
        t ≤ moment ∧ moment < t + (settings key).window).length ≤ 2 * (settings key).limit) ∧
      (∀ key t, 0 < (settings key).window →
        (within (settings key).window t (AuthRateLimiter.acceptedAt settings key calls)).length ≤
          2 * (settings key).limit) ∧
      ∀ first second email, normalizeEmail first = .ok email → normalizeEmail second = .ok email →
        AuthOperation.login.subjectKey first = AuthOperation.login.subjectKey second ∧
        ∀ limiter ip ipCheckedAt subjectCheckedAt,
          AuthOperation.login.enforce limiter ip (some first) ipCheckedAt subjectCheckedAt =
            AuthOperation.login.enforce limiter ip (some second) ipCheckedAt
              subjectCheckedAt := by
  have hmoments : ∀ key, (AuthRateLimiter.acceptedAt settings key calls).Pairwise (· ≤ ·) := by
    intro key
    rw [AuthRateLimiter.acceptedAt_eq hsettings hsorted]
    exact (List.pairwise_map.2 (hsorted.sublist List.filter_sublist)).sublist
      (Rate.accepted_sublist _ _ _)
  have hwindows : ∀ key, ∀ window ∈ windows (settings key).window
      (AuthRateLimiter.acceptedAt settings key calls), window.length ≤ (settings key).limit := by
    intro key
    rw [AuthRateLimiter.acceptedAt_eq hsettings hsorted]
    exact length_le_of_mem_windows (settings key)
      (List.pairwise_map.2 (hsorted.sublist List.filter_sublist))
  refine ⟨AuthRateLimiter.results_check hsettings hsorted fun _ _ => Forgets.refl _ _ _, hwindows,
    fun key t => length_filter_lt_le (hmoments key) (hwindows key),
    fun key t hpos => length_within_le hpos (hmoments key) (hwindows key), ?_⟩
  intro first second email hfirst hsecond
  have hkey : AuthOperation.login.subjectKey first = AuthOperation.login.subjectKey second := by
    rw [AuthOperation.subjectKey, AuthOperation.subjectKey, normalizeEmail_ok hfirst,
      normalizeEmail_ok hsecond]
  refine ⟨hkey, fun limiter ip ipCheckedAt subjectCheckedAt => ?_⟩
  simp only [AuthOperation.enforce, hkey]

/-- So many subjects that call for the first time. -/
def crowd (n : Nat) : List Text := (List.range n).map fun i => List.replicate i 'a'

theorem length_crowd (n : Nat) : (crowd n).length = n := by
  rw [crowd, List.length_map, List.length_range]

theorem nodup_crowd (n : Nat) : (crowd n).Nodup :=
  List.nodup_range.map fun _ _ heq => by simpa using congrArg List.length heq

def firstCalls (n : Nat) : List (Call Text) := (crowd n).map fun key => ⟨key, 0⟩

/-- What a crowd leaves is forgotten as a whole once an hour is over and there is no more room. -/
theorem retain_crowd {settings : AuthRateLimiter.Settings}
    (hlimit : ∀ key, 0 < (settings key).limit) {n : Nat} (hroom : n ≤ 4097) (hfull : 4096 < n) :
    let full := AuthRateLimiter.new.after settings (firstCalls n)
    full.buckets.rows.length = n ∧ (full.retain (seconds 3600)).buckets.rows = [] := by
  intro full
  have hrows : full.buckets.rows = (crowd n).reverse.map (⟨·, 0, 1⟩) := by
    have hnew : AuthRateLimiter.new.buckets.rows = [] := rfl
    have hkeys : (crowd n ++ AuthRateLimiter.new.buckets.rows.map AuthRateBucket.key).Nodup := by
      rw [hnew, List.map_nil, List.append_nil]
      exact nodup_crowd n
    have hlength : (crowd n).length + AuthRateLimiter.new.buckets.rows.length ≤ 4097 := by
      rwa [hnew, length_crowd]
    exact (AuthRateLimiter.after_fresh hlimit 0 hkeys hlength).trans (List.append_nil _)
  have hlength : full.buckets.rows.length = n := by
    rw [hrows, List.length_map, List.length_reverse, length_crowd]
  refine ⟨hlength, ?_⟩
  rw [AuthRateLimiter.retain, if_pos (by rwa [hlength])]
  refine List.filter_eq_nil_iff.2 fun bucket hbucket => ?_
  rw [hrows] at hbucket
  obtain ⟨key, -, rfl⟩ := List.mem_map.1 hbucket
  simp [AuthRateBucket.elapsed]

/-- Four calls within the hour, of which the last is refused. -/
def resetCalls : List (Call Text) :=
  [0, seconds 1, seconds 2, seconds 3599].map fun now => ⟨"forgot:subject:".toList, now⟩

def lateCall : Call Text := ⟨[], seconds 3600⟩

theorem pairwise_firstCalls (n : Nat) : (firstCalls n ++ [lateCall]).Pairwise (·.now ≤ ·.now) := by
  have hnow : ∀ call ∈ firstCalls n, call.now = 0 := by
    intro call hcall
    obtain ⟨key, -, rfl⟩ := List.mem_map.1 hcall
    rfl
  refine List.pairwise_append.2 ⟨List.pairwise_of_forall_mem_list fun first hfirst second _ => ?_,
    List.pairwise_singleton _ _, fun first hfirst second _ => ?_⟩
  · rw [hnow first hfirst]
    exact Nat.zero_le _
  · rw [hnow first hfirst]
    exact Nat.zero_le _

theorem authRateLimiter_bounds_forgot :
    let settings : AuthRateLimiter.Settings :=
      fun _ => ⟨AuthOperation.forgot.subjectLimit, AuthOperation.forgot.window⟩
    AuthRateLimiter.results AuthRateLimiter.grant settings .new resetCalls =
        [.ok (), .ok (), .ok (), .error ApiError.rateLimited] ∧
      AuthRateLimiter.results AuthRateLimiter.check settings .new resetCalls =
        [.ok (), .ok (), .ok (), .error ApiError.rateLimited] ∧
      (∀ _ : ControlCrypto,
        AuthOperation.login.subjectKey " User@Example.com".toList =
          AuthOperation.login.subjectKey "user@example.com".toList) ∧
      (let full := AuthRateLimiter.new.after settings (firstCalls 4097)
       full.buckets.rows.length = 4097 ∧ (full.retain (seconds 3600)).buckets.rows = []) ∧
      AuthRateLimiter.results AuthRateLimiter.check settings .new (firstCalls 4097 ++ [lateCall]) =
        AuthRateLimiter.results AuthRateLimiter.grant settings .new
          (firstCalls 4097 ++ [lateCall]) := by
  intro settings
  have hsettings : ∀ key, (settings key).window ≤ seconds 3600 := fun _ => Nat.le_refl _
  have hsorted : resetCalls.Pairwise (·.now ≤ ·.now) := by decide
  have hgrant : AuthRateLimiter.results AuthRateLimiter.grant settings .new resetCalls =
      [.ok (), .ok (), .ok (), .error ApiError.rateLimited] := by decide +kernel
  have hfirst : normalizeEmail " User@Example.com".toList = .ok "user@example.com".toList := by
    decide +kernel
  have hsecond : normalizeEmail "user@example.com".toList = .ok "user@example.com".toList := by
    decide +kernel
  refine ⟨hgrant, ?_, fun crypto => ?_,
    retain_crowd (fun _ => by decide) (Nat.le_refl _) (Nat.lt_succ_self _),
    (@authRateLimiter_bounds ⟨id, fun _ => id, fun _ _ => none⟩ settings hsettings _
      (pairwise_firstCalls 4097)).1⟩
  · have hsame := (@authRateLimiter_bounds ⟨id, fun _ => id, fun _ _ => none⟩ settings hsettings
      resetCalls hsorted).1
    rw [hsame, hgrant]
  · exact ((@authRateLimiter_bounds crypto settings hsettings resetCalls hsorted).2.2.2.2 _ _ _
      hfirst hsecond).1

end MediaHub.Server
