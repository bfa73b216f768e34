import MediaHub.Policy.Document
import MediaHub.Policy.IpNetwork
import MediaHub.Text.Utf8

/-!
The parser of policies with the places where the code could panic: indices, slices, values that are
expected, and recursion.
-/

namespace MediaHub.Policy

open Json (Value)
open S3PolicyErrorCode

/-- What the code does: it returns a value or an error, or it panics, which is `none`. -/
abbrev Checked (α : Type) := ExceptT S3PolicyError Option α

variable {α β : Type}

def returns (result : Except S3PolicyError α) : Checked α := some result

def orPanic (value : Option α) : Checked α := value.map Except.ok

theorem orPanic_some (value : α) : orPanic (some value) = returns (.ok value) := rfl

/-- What comes after a result need not panic on others. -/
theorem returns_bind {result : Except S3PolicyError α} {checked : α → Checked β}
    {f : α → Except S3PolicyError β}
    (h : ∀ value, result = .ok value → checked value = returns (f value)) :
    (returns result >>= checked) = returns (result >>= f) := by
  cases result with
  | error e => rfl
  | ok value => exact h value rfl

theorem returns_ok_bind (value : α) (f : α → Checked β) :
    (returns (.ok value) >>= f) = f value := rfl

theorem returns_map (result : Except S3PolicyError α) (f : α → β) :
    (returns result >>= fun value => returns (.ok (f value))) = returns (result.map f) := by
  cases result with
  | error e => rfl
  | ok value => rfl

theorem mapM_returns {values : List α} {checked : α → Checked β} {f : α → Except S3PolicyError β}
    (h : ∀ value ∈ values, checked value = returns (f value)) :
    values.mapM checked = returns (values.mapM f) := by
  induction values with
  | nil => rfl
  | cons value values ih =>
      rw [List.forall_mem_cons] at h
      rw [List.mapM_cons, List.mapM_cons, h.1, ih h.2]
      exact returns_bind fun _ _ => returns_bind fun _ _ => rfl

/-- The text before some byte and the text from it on, where a character begins there or the text
ends. -/
def splitAtByte : Text → Nat → Option (Text × Text)
  | s, 0 => some ([], s)
  | [], _ + 1 => none
  | c :: s, n + 1 =>
      if c.utf8Size ≤ n + 1 then
        (splitAtByte s (n + 1 - c.utf8Size)).map fun parts => (c :: parts.1, parts.2)
      else none

theorem splitAtByte_append (front rest : Text) :
    splitAtByte (front ++ rest) (Utf8.byteLength front) = some (front, rest) := by
  induction front with
  | nil => exact splitAtByte.eq_1 rest
  | cons c front ih =>
      have hpos := c.utf8Size_pos
      have hlength :
          Utf8.byteLength (c :: front) = Utf8.byteLength front + (c.utf8Size - 1) + 1 := by
        rw [Utf8.byteLength_cons]
        omega
      have hrest :
          Utf8.byteLength front + (c.utf8Size - 1) + 1 - c.utf8Size = Utf8.byteLength front := by
        omega
      rw [List.cons_append, hlength, splitAtByte, if_pos (by omega), hrest, ih]
      rfl

theorem splitAtByte_eq_some {s : Text} {n : Nat} {parts : Text × Text}
    (h : splitAtByte s n = some parts) : s = parts.1 ++ parts.2 ∧ Utf8.byteLength parts.1 = n := by
  induction s generalizing n parts with
  | nil =>
      cases n with
      | zero =>
          obtain rfl := Option.some.inj h
          exact ⟨rfl, rfl⟩
      | succ n => exact nomatch h
  | cons c s ih =>
      cases n with
      | zero =>
          obtain rfl := Option.some.inj h
          exact ⟨rfl, rfl⟩
      | succ n =>
          rw [splitAtByte] at h
          split at h
          · next hsize =>
              obtain ⟨more, hmore, rfl⟩ := Option.map_eq_some_iff.1 h
              obtain ⟨hparts, hlength⟩ := ih hmore
              refine ⟨congrArg (c :: ·) hparts, ?_⟩
              rw [Utf8.byteLength_cons, hlength]
              omega
          · exact nomatch h

/-- `&s[at..]` -/
def sliceFrom (s : Text) (n : Nat) : Option Text := (splitAtByte s n).map Prod.snd

/-- `s.get(..n)` -/
def getTo (s : Text) (n : Nat) : Option Text := (splitAtByte s n).map Prod.fst

theorem sliceFrom_append (front rest : Text) :
    sliceFrom (front ++ rest) (Utf8.byteLength front) = some rest := by
  rw [sliceFrom, splitAtByte_append]
  rfl

/-- `entries[i] = entry` -/
def setEntry (entries : List Bool) (i : Nat) (entry : Bool) : Option (List Bool) :=
  if i < entries.length then some (entries.set i entry) else none

/-- What the inner loop of `glob_matches` does for one character of the value. -/
def checkedGlobStep (patternCharacter : Char) (asciiCaseInsensitive : Bool) (previous : List Bool)
    (current : List Bool) (entry : Char × Nat) : Option (List Bool) := do
  let next ←
    if patternCharacter = '*' then do
      let above ← previous[entry.2 + 1]?
      let before ← current[entry.2]?
      some (above || before)
    else do
      let before ← previous[entry.2]?
      some (before && (patternCharacter == '?' ||
        charactersEqual patternCharacter entry.1 asciiCaseInsensitive))
  setEntry current (entry.2 + 1) next

def checkedGlobRow (patternCharacter : Char) (asciiCaseInsensitive : Bool) (value : Text)
    (previous : List Bool) : Option (List Bool) := do
  let current := List.replicate (value.length + 1) false
  let current ←
    if patternCharacter = '*' then do
      let first ← previous[0]?
      setEntry current 0 first
    else some current
  value.zipIdx.foldlM (checkedGlobStep patternCharacter asciiCaseInsensitive previous) current

def checkedGlobMatches (pattern value : Text) (asciiCaseInsensitive : Bool) : Option Bool := do
  let previous ← setEntry (List.replicate (value.length + 1) false) 0 true
  let previous ← pattern.foldlM
    (fun previous c => checkedGlobRow c asciiCaseInsensitive value previous) previous
  previous[value.length]?

theorem length_globColumns {c : Char} {asciiCaseInsensitive : Bool} {value : Text}
    {previous : List Bool} (current : Bool) (h : previous.length = value.length + 1) :
    (globColumns c asciiCaseInsensitive value previous current).length = value.length := by
  induction value generalizing previous current with
  | nil => rfl
  | cons d value ih =>
      match previous, h with
      | before :: after :: previous, h =>
          rw [globColumns, List.length_cons, ih _ (by simpa using h), List.length_cons]

theorem length_globRow {c : Char} {asciiCaseInsensitive : Bool} {value : Text}
    {previous : List Bool} (h : previous.length = value.length + 1) :
    (globRow c asciiCaseInsensitive value previous).length = value.length + 1 := by
  rw [globRow, List.length_cons, length_globColumns _ h]

/-- The rest of a row: `done` are the entries before the one at hand, `passed` those above them. -/
theorem checkedGlobStep_foldlM {c : Char} {asciiCaseInsensitive : Bool} {value : Text}
    {passed done above : List Bool} {current : Bool} (habove : above.length = value.length + 1)
    (hpassed : passed.length = done.length) :
    (value.zipIdx done.length).foldlM
        (checkedGlobStep c asciiCaseInsensitive (passed ++ above))
        (done ++ current :: List.replicate value.length false) =
      some (done ++ current :: globColumns c asciiCaseInsensitive value above current) := by
  induction value generalizing passed done above current with
  | nil => rfl
  | cons d value ih =>
      match above, habove with
      | before :: after :: above, habove =>
          let next :=
            if c = '*' then after || current
            else before && (c == '?' || charactersEqual c d asciiCaseInsensitive)
          have hstep : checkedGlobStep c asciiCaseInsensitive (passed ++ before :: after :: above)
              (done ++ current :: List.replicate (value.length + 1) false) (d, done.length) =
              some ((done ++ [current]) ++ next :: List.replicate value.length false) := by
            have hbefore : (passed ++ before :: after :: above)[done.length]? = some before := by
              rw [← hpassed, List.getElem?_append_right (Nat.le_refl _), Nat.sub_self]
              rfl
            have hafter : (passed ++ before :: after :: above)[done.length + 1]? = some after := by
              rw [← hpassed, List.getElem?_append_right (Nat.le_add_right _ 1),
                Nat.add_sub_cancel_left]
              rfl
            have hcurrent : (done ++ current :: List.replicate (value.length + 1) false)[
                done.length]? = some current := by
              rw [List.getElem?_append_right (Nat.le_refl _), Nat.sub_self]
              rfl
            have hset : setEntry (done ++ current :: List.replicate (value.length + 1) false)
                (done.length + 1) next =
                some ((done ++ [current]) ++ next :: List.replicate value.length false) := by
              have hlength : done.length + 1 <
                  (done ++ current :: List.replicate (value.length + 1) false).length := by
                simp
              rw [setEntry, if_pos hlength, List.set_append_right _ _ (Nat.le_add_right _ 1),
                Nat.add_sub_cancel_left, List.append_assoc]
              rfl
            rw [checkedGlobStep]
            dsimp only
            rw [hbefore, hafter, hcurrent]
            split
            · next hstar =>
                have hvalue : next = (after || current) := if_pos hstar
                rw [hvalue] at hset ⊢
                exact hset
            · next hstar =>
                have hvalue : next =
                    (before && (c == '?' || charactersEqual c d asciiCaseInsensitive)) :=
                  if_neg hstar
                rw [hvalue] at hset ⊢
                exact hset
          have hrest := @ih (passed ++ [before]) (done ++ [current]) (after :: above) next
            (by simpa using habove) (by simp [hpassed])
          have hpassed : passed ++ [before] ++ after :: above =
              passed ++ before :: after :: above := by
            simp
          have hdone : (done ++ [current]).length = done.length + 1 := by simp
          rw [hpassed, hdone] at hrest
          rw [List.zipIdx_cons, List.foldlM_cons, List.length_cons, hstep]
          refine hrest.trans ?_
          rw [globColumns, List.append_assoc]
          rfl

theorem checkedGlobRow_eq {c : Char} {asciiCaseInsensitive : Bool} {value : Text}
    {previous : List Bool} (h : previous.length = value.length + 1) :
    checkedGlobRow c asciiCaseInsensitive value previous =
      some (globRow c asciiCaseInsensitive value previous) := by
  match previous, h with
  | first :: previous, h =>
      have hcolumns :=
        @checkedGlobStep_foldlM c asciiCaseInsensitive value [] [] (first :: previous)
        (c == '*' && first) h rfl
      rw [checkedGlobRow, globRow]
      dsimp only
      split
      · next hstar =>
          subst hstar
          exact hcolumns
      · next hstar =>
          have hfirst : (c == '*' && first) = false := by simp [hstar]
          rw [hfirst] at hcolumns
          rw [List.headD_cons, hfirst]
          exact hcolumns

theorem checkedGlobMatches_eq (pattern value : Text) (asciiCaseInsensitive : Bool) :
    checkedGlobMatches pattern value asciiCaseInsensitive =
      some (globMatches pattern value asciiCaseInsensitive) := by
  have hrows : ∀ (pattern : Text) (previous : List Bool), previous.length = value.length + 1 →
      pattern.foldlM (fun previous c => checkedGlobRow c asciiCaseInsensitive value previous)
        previous =
        some (pattern.foldl (fun previous c => globRow c asciiCaseInsensitive value previous)
          previous) ∧
      (pattern.foldl (fun previous c => globRow c asciiCaseInsensitive value previous)
        previous).length = value.length + 1 := by
    intro pattern
    induction pattern with
    | nil =>
        intro previous h
        exact ⟨rfl, h⟩
    | cons c pattern ih =>
        intro previous h
        rw [List.foldlM_cons, checkedGlobRow_eq h]
        exact ih _ (length_globRow h)
  have hstart : setEntry (List.replicate (value.length + 1) false) 0 true =
      some (true :: List.replicate value.length false) := by
    rw [setEntry, if_pos (by simp), List.replicate_succ]
    rfl
  obtain ⟨htable, hlength⟩ := hrows pattern (true :: List.replicate value.length false) (by simp)
  have hlast : (globTable pattern value asciiCaseInsensitive)[value.length]? =
      some (globMatches pattern value asciiCaseInsensitive) := by
    have hsize : value.length = (globTable pattern value asciiCaseInsensitive).length - 1 := by
      rw [globTable, hlength, Nat.add_sub_cancel]
    have hne : globTable pattern value asciiCaseInsensitive ≠ [] := by
      intro hnil
      rw [globTable] at hnil
      rw [hnil] at hlength
      exact nomatch hlength
    rw [hsize, ← List.getLast?_eq_getElem?, globMatches, List.getLast?_eq_some_getLast hne,
      List.getLastD_eq_getLast?, List.getLast?_eq_some_getLast hne]
    rfl
  rw [checkedGlobMatches, hstart]
  refine (congrArg (· >>= _) htable).trans ?_
  exact hlast

theorem anyM_some {p : α → Bool} {checked : α → Option Bool} (h : ∀ a, checked a = some (p a))
    (values : List α) : values.anyM checked = some (values.any p) := by
  induction values with
  | nil => rfl
  | cons value values ih =>
      rw [List.anyM, h value, List.any_cons]
      cases hvalue : p value with
      | true => rfl
      | false => exact ih

theorem allM_some {p : α → Bool} {checked : α → Option Bool} (h : ∀ a, checked a = some (p a))
    (values : List α) : values.allM checked = some (values.all p) := by
  induction values with
  | nil => rfl
  | cons value values ih =>
      rw [List.allM, h value, List.all_cons]
      cases hvalue : p value with
      | true => exact ih
      | false => rfl

/-- The parts of an ARN of a principal, by their indices. -/
def checkedPrincipalParts (parts : List Text) : Option Bool := do
  if parts.length ≠ 6 then some false
  else if (← parts[0]?) ≠ "arn".toList then some false
  else if (← parts[1]?) ≠ "aws".toList then some false
  else if (← parts[2]?) ≠ "iam".toList ∧ (← parts[2]?) ≠ "sts".toList then some false
  else if (← parts[3]?).isEmpty = false then some false
  else if validAccountId (← parts[4]?) = false then some false
  else if (← parts[2]?) = "iam".toList then
    if (← parts[5]?) = "root".toList then some true
    else
      let name ← parts[5]?
      some (["user/".toList, "role/".toList].any fun start => validPrincipalPath name start)
  else if (← parts[2]?) = "sts".toList then
    let name ← parts[5]?
    some (validPrincipalPath name "assumed-role/".toList)
  else some false

theorem checkedPrincipalParts_eq (parts : List Text) :
    checkedPrincipalParts parts = some (validPrincipalParts parts) := by
  unfold validPrincipalParts
  split
  · next arn partition service region account name =>
      rw [checkedPrincipalParts, if_neg (fun h => h rfl)]
      simp only [List.getElem?_cons_zero, List.getElem?_cons_succ, Option.bind_eq_bind,
        Option.bind_some]
      generalize "arn".toList = arnText, "aws".toList = awsText, "iam".toList = iamText,
        "sts".toList = stsText, "root".toList = rootText, "user/".toList = userText,
        "role/".toList = roleText, "assumed-role/".toList = assumedText
      split_ifs
      all_goals simp_all
  · next hparts =>
      have hlength : parts.length ≠ 6 := by
        intro hlength
        match parts, hlength with
        | [arn, partition, service, region, account, name], _ =>
            exact hparts _ _ _ _ _ _ rfl
      exact if_pos hlength

def checkedParseAwsPrincipal (value : Text) : Checked S3AwsPrincipal :=
  if value = "*".toList then returns (.ok .any)
  else if validAccountId value then returns (.ok (.account value))
  else do
    let valid ← orPanic (checkedPrincipalParts (Text.splitN ':' 6 value))
    returns (if !valid || maxS3PolicyStringBytes < Utf8.byteLength value then
      .error (.validation invalidPrincipal) else .ok (.arn value))

theorem checkedParseAwsPrincipal_eq (value : Text) :
    checkedParseAwsPrincipal value = returns (parseAwsPrincipal value) := by
  rw [checkedParseAwsPrincipal, parseAwsPrincipal, checkedPrincipalParts_eq, orPanic_some,
    returns_ok_bind]
  dsimp only
  split
  · rfl
  · split
    · rfl
    · rfl

def checkedParsePrincipal (value : Value) : Checked S3PolicyPrincipal :=
  if value.asStr = some "*".toList then returns (.ok .any)
  else do
    let object ← returns (object value invalidPrincipal)
    returns (rejectUnknownFields object ["AWS"])
    if object.length ≠ 1 then returns (.error (.validation invalidPrincipal))
    else do
      let aws ← orPanic (Fields.get object "AWS".toList)
      let values ← returns (parseStringValues aws maxS3PolicyPrincipals invalidPrincipal)
      let principals ← values.mapM checkedParseAwsPrincipal
      returns (.ok (.aws principals))

/-- The only field that is allowed is the one that is expected. -/
theorem checkedParsePrincipal_eq (value : Value) :
    checkedParsePrincipal value = returns (parsePrincipal value) := by
  rw [checkedParsePrincipal, parsePrincipal]
  split
  · rfl
  · refine returns_bind fun fields _ => ?_
    refine returns_bind fun _ hknown => ?_
    match fields, hknown with
    | [], _ => rfl
    | [(name, aws)], hknown =>
        have hname : name = "AWS".toList := by
          rw [rejectUnknownFields] at hknown
          split at hknown
          · exact nomatch hknown
          · next hall => simpa using hall
        have hget : Fields.get [(name, aws)] "AWS".toList = some aws := by
          simp [Fields.get, hname]
        rw [if_neg (fun h => h rfl), hget, orPanic_some, returns_ok_bind]
        refine returns_bind fun values _ => ?_
        rw [mapM_returns fun value _ => checkedParseAwsPrincipal_eq value]
        exact returns_bind fun _ _ => rfl
    | _ :: _ :: _, _ => rfl

/-- What `validate_action_patterns` asks of one pattern. -/
def checkedActionPattern (supportedActions : List S3PolicyAction) (pattern : Text) :
    Option Bool := do
  if !(getTo pattern 3).any (fun front => eqTextIgnoreAsciiCase front "s3:".toList) then some false
  else if Utf8.byteLength pattern ≤ 3 then some false
  else if (← sliceFrom pattern 3).any (fun c => !(isAsciiAlphanumeric c || isWildcard c)) then
    some false
  else supportedActions.anyM fun action => checkedGlobMatches pattern action.asStr true

def checkedValidateActionPatterns (patterns : List Text) (negative : Bool)
    (supportedActions : List S3PolicyAction) : Checked Unit := do
  let valid ← orPanic (patterns.allM (checkedActionPattern supportedActions))
  if !valid then returns (.error (.validation unsupportedAction))
  else if !negative then returns (.ok ())
  else do
    let covered ← orPanic (supportedActions.allM fun action =>
      patterns.anyM fun pattern => checkedGlobMatches pattern action.asStr true)
    returns (if covered then .error (.validation unsupportedAction) else .ok ())

/-- `resource["arn:aws:s3:::".len()..].contains('/')` -/
def checkedPatternScopes (resource : Text) : Option (List S3PolicyResourceScope) :=
  if resource = "*".toList then some [.account, .bucket, .object]
  else do
    let name ← sliceFrom resource (Utf8.byteLength resourceStart)
    some (if name.contains '/' then [.object] else [.bucket])

def checkedResourceClauseScopes (resources : S3ResourceClause) (policyKind : S3PolicyKind) :
    Option (List S3PolicyResourceScope) :=
  match resources, policyKind with
  | .notResource patterns, .identity =>
      some (if patterns.any (· == "*".toList) then [] else [.account, .bucket, .object])
  | .resource patterns, _ => (patterns.mapM checkedPatternScopes).map List.flatten
  | .notResource patterns, .bucket _ => (patterns.mapM checkedPatternScopes).map List.flatten

def checkedActionClauseMatches (clause : S3ActionClause) (action : S3PolicyAction) :
    Option Bool :=
  match clause with
  | .action patterns =>
      patterns.anyM fun pattern => checkedGlobMatches pattern action.asStr true
  | .notAction patterns =>
      (patterns.anyM fun pattern => checkedGlobMatches pattern action.asStr true).map (!·)

def checkedValidateActionResourceCompatibility (actions : S3ActionClause)
    (resources : S3ResourceClause) (policyKind : S3PolicyKind) : Checked Unit := do
  let scopes ← orPanic (checkedResourceClauseScopes resources policyKind)
  let applicable ← orPanic (policyKind.supportedActions.mapM fun action => do
    let matched ← checkedActionClauseMatches actions action
    some (matched && scopes.contains action.scope))
  returns (if applicable.count true = 0 then .error (.validation invalidResource) else .ok ())

theorem utf8Size_of_toLower {c d : Char} (h : c.toLower = d) (hd : d.utf8Size = 1) :
    c.utf8Size = 1 := by
  by_cases hascii : c.toNat < 128
  · exact Text.of_ascii (P := fun c => c.utf8Size = 1) (by decide +kernel) hascii
  · rwa [← Text.toLower_of_not_ascii hascii, h]

/-- What is `s3:` up to case is three characters of one byte each. -/
theorem byteLength_of_eqText {front : Text}
    (h : eqTextIgnoreAsciiCase front "s3:".toList = true) :
    front.length = 3 ∧ Utf8.byteLength front = 3 := by
  have hlower : front.map Char.toLower = ['s', '3', ':'] := beq_iff_eq.1 h
  have hlength : front.length = 3 := by
    rw [← List.length_map Char.toLower, hlower]
    rfl
  obtain ⟨a, b, c, rfl⟩ := List.length_eq_three.1 hlength
  obtain ⟨ha, hlower⟩ := List.cons.inj hlower
  obtain ⟨hb, hlower⟩ := List.cons.inj hlower
  obtain ⟨hc, -⟩ := List.cons.inj hlower
  refine ⟨rfl, ?_⟩
  rw [Utf8.byteLength_cons, Utf8.byteLength_cons, Utf8.byteLength_cons,
    utf8Size_of_toLower ha (by decide), utf8Size_of_toLower hb (by decide),
    utf8Size_of_toLower hc (by decide)]
  rfl

theorem splitAtByte_s3 {pattern : Text}
    (h : eqTextIgnoreAsciiCase (pattern.take 3) "s3:".toList = true) :
    splitAtByte pattern 3 = some (pattern.take 3, pattern.drop 3) := by
  have hsplit := splitAtByte_append (pattern.take 3) (pattern.drop 3)
  rwa [List.take_append_drop, (byteLength_of_eqText h).2] at hsplit

theorem getTo_s3 (pattern : Text) :
    (getTo pattern 3).any (fun front => eqTextIgnoreAsciiCase front "s3:".toList) =
      eqTextIgnoreAsciiCase (pattern.take 3) "s3:".toList := by
  cases hfront : eqTextIgnoreAsciiCase (pattern.take 3) "s3:".toList with
  | true =>
      rw [getTo, splitAtByte_s3 hfront]
      exact hfront
  | false =>
      cases hsplit : splitAtByte pattern 3 with
      | none =>
          rw [getTo, hsplit]
          rfl
      | some parts =>
          obtain ⟨hpattern, -⟩ := splitAtByte_eq_some hsplit
          rw [getTo, hsplit, Option.map_some, Option.any_some]
          by_contra hs3
          rw [Bool.not_eq_false] at hs3
          have htake : pattern.take 3 = parts.1 := by
            rw [hpattern, ← (byteLength_of_eqText hs3).1, List.take_left]
          rw [htake, hs3] at hfront
          exact nomatch hfront

theorem checkedActionPattern_eq (supportedActions : List S3PolicyAction) (pattern : Text) :
    checkedActionPattern supportedActions pattern =
      some (!(!eqTextIgnoreAsciiCase (pattern.take 3) "s3:".toList || Utf8.byteLength pattern ≤ 3 ||
        (pattern.drop 3).any (fun c => !(isAsciiAlphanumeric c || isWildcard c)) ||
        !supportedActions.any (fun action => globMatches pattern action.asStr true))) := by
  rw [checkedActionPattern, getTo_s3]
  cases hfront : eqTextIgnoreAsciiCase (pattern.take 3) "s3:".toList with
  | false => rfl
  | true =>
      have hslice : sliceFrom pattern 3 = some (pattern.drop 3) := by
        rw [sliceFrom, splitAtByte_s3 hfront]
        rfl
      have hglobs := anyM_some (fun action : S3PolicyAction =>
        checkedGlobMatches_eq pattern action.asStr true) supportedActions
      rw [hslice, hglobs]
      simp only [Option.bind_eq_bind, Option.bind_some]
      generalize ((pattern.drop 3).any fun c => !(isAsciiAlphanumeric c || isWildcard c)) = others
      generalize (supportedActions.any fun action => globMatches pattern action.asStr true) = known
      by_cases hshort : Utf8.byteLength pattern ≤ 3
      · simp [hshort]
      · cases others
        · simp [hshort]
        · simp [hshort]

theorem checkedValidateActionPatterns_eq (patterns : List Text) (negative : Bool)
    (supportedActions : List S3PolicyAction) :
    checkedValidateActionPatterns patterns negative supportedActions =
      returns (validateActionPatterns patterns negative supportedActions) := by
  have hvalid := allM_some (checkedActionPattern_eq supportedActions) patterns
  have hcovered := allM_some (fun action : S3PolicyAction =>
    anyM_some (fun pattern => checkedGlobMatches_eq pattern action.asStr true) patterns)
    supportedActions
  rw [← List.not_any_eq_all_not] at hvalid
  rw [checkedValidateActionPatterns, hvalid, hcovered, orPanic_some, returns_ok_bind,
    Bool.not_not, validateActionPatterns]
  split
  · rfl
  · cases negative with
    | false => rfl
    | true =>
        rw [Bool.true_and]
        rfl

theorem exists_of_dropPrefix {pattern front suffix : Text}
    (h : pattern.dropPrefix? front = some suffix) : pattern = front ++ suffix := by
  obtain ⟨front', rfl, hfront⟩ := List.dropPrefix?_eq_some_iff.1 h
  rw [beq_iff_eq.1 hfront]

/-- Where a valid pattern for resources is not the wildcard, it begins as all of them do. -/
theorem exists_of_validResource {policyKind : S3PolicyKind} {pattern : Text}
    (h : validResource policyKind pattern = true) :
    pattern = "*".toList ∨ ∃ name, pattern = resourceStart ++ name := by
  cases policyKind with
  | bucket targetBucket =>
      refine Or.inr ?_
      rw [validResource, validBucketResource, Bool.or_eq_true, beq_iff_eq,
        Option.any_eq_true] at h
      rcases h with rfl | ⟨suffix, hsuffix, -⟩
      · exact ⟨targetBucket, rfl⟩
      · rw [exists_of_dropPrefix hsuffix, List.append_assoc]
        exact ⟨_, rfl⟩
  | identity =>
      rw [validResource, validIdentityResource] at h
      split at h
      · next hstar => exact Or.inl hstar
      · split at h
        · exact nomatch h
        · next resource hresource => exact Or.inr ⟨resource, exists_of_dropPrefix hresource⟩

theorem checkedPatternScopes_eq {policyKind : S3PolicyKind} {pattern : Text}
    (h : validResource policyKind pattern = true) :
    checkedPatternScopes pattern = some (resourcePatternScopes pattern) := by
  rw [checkedPatternScopes, resourcePatternScopes]
  split
  · rfl
  · next hstar =>
      obtain ⟨name, rfl⟩ := (exists_of_validResource h).resolve_left hstar
      rw [sliceFrom_append, List.drop_left]
      rfl

theorem mapM_some {checked : α → Option β} {f : α → β} {values : List α}
    (h : ∀ value ∈ values, checked value = some (f value)) :
    values.mapM checked = some (values.map f) := by
  induction values with
  | nil => rfl
  | cons value values ih =>
      rw [List.forall_mem_cons] at h
      rw [List.mapM_cons, h.1, ih h.2]
      rfl

/-- The validation of the resources comes before the slices. -/
theorem checkedResourceClauseScopes_eq {resources : S3ResourceClause} {policyKind : S3PolicyKind}
    (h : ∀ pattern ∈ resources.patterns, validResource policyKind pattern = true) :
    checkedResourceClauseScopes resources policyKind =
      some (resourceClauseScopes resources policyKind) := by
  have hscopes := mapM_some fun pattern hpattern => checkedPatternScopes_eq (h pattern hpattern)
  have hflat : (resources.patterns.mapM checkedPatternScopes).map List.flatten =
      some (resources.patterns.flatMap resourcePatternScopes) := by
    rw [hscopes, List.flatMap_def]
    rfl
  cases resources with
  | resource patterns => exact hflat
  | notResource patterns =>
      cases policyKind with
      | bucket targetBucket => exact hflat
      | identity => rfl

theorem checkedActionClauseMatches_eq (clause : S3ActionClause) (action : S3PolicyAction) :
    checkedActionClauseMatches clause action = some (actionClauseMatches clause action) := by
  cases clause with
  | action patterns =>
      exact anyM_some (fun pattern => checkedGlobMatches_eq pattern action.asStr true) patterns
  | notAction patterns =>
      rw [checkedActionClauseMatches, anyM_some
        (fun pattern => checkedGlobMatches_eq pattern action.asStr true) patterns]
      rfl

theorem checkedValidateActionResourceCompatibility_eq (actions : S3ActionClause)
    {resources : S3ResourceClause} {policyKind : S3PolicyKind}
    (h : ∀ pattern ∈ resources.patterns, validResource policyKind pattern = true) :
    checkedValidateActionResourceCompatibility actions resources policyKind =
      returns (validateActionResourceCompatibility actions resources policyKind) := by
  have hscopes := checkedResourceClauseScopes_eq h
  have happlicable := @mapM_some S3PolicyAction Bool
    (fun action => do
      let matched ← checkedActionClauseMatches actions action
      some (matched && (resourceClauseScopes resources policyKind).contains action.scope))
    (fun action => actionClauseMatches actions action &&
      (resourceClauseScopes resources policyKind).contains action.scope)
    policyKind.supportedActions (fun action _ => by
      rw [checkedActionClauseMatches_eq]
      rfl)
  have hcount : (policyKind.supportedActions.map fun action =>
      actionClauseMatches actions action &&
        (resourceClauseScopes resources policyKind).contains action.scope).count true =
      (policyKind.supportedActions.filter fun action => actionClauseMatches actions action &&
        (resourceClauseScopes resources policyKind).contains action.scope).length := by
    rw [List.count_eq_countP, List.countP_map, List.countP_eq_length_filter]
    congr 2
    funext action
    simp
  rw [checkedValidateActionResourceCompatibility, hscopes, orPanic_some, returns_ok_bind,
    happlicable, orPanic_some, returns_ok_bind, hcount]
  rfl

def checkedParseConditionValue (operator : S3ConditionOperator) (value : Value) :
    Checked S3ConditionValue :=
  match operator with
  | .ipAddress | .notIpAddress => do
      let value ← returns (conditionString value)
      let network ← orPanic (IpNetwork.checkedParse value)
      let network ← returns (supported network)
      returns (.ok (.ip network))
  | _ => returns (parseConditionValue operator value)

def checkedParseCondition (operator : S3ConditionOperator) (key : S3ConditionKey)
    (value : Value) : Checked S3PolicyCondition :=
  if !validPair operator key then returns (.error (.validation unsupportedCondition))
  else do
    let rawValues ← returns (scalarOrArray value)
    if rawValues.isEmpty || maxS3PolicyConditionValues < rawValues.length then
      returns (.error (.limit limitExceeded))
    else if (operator = .bool ∨ operator = .null) ∧ rawValues.length ≠ 1 then
      returns (.error (.validation unsupportedCondition))
    else do
      let values ← rawValues.mapM (checkedParseConditionValue operator)
      returns (.ok { operator, key, values })

def checkedParseConditionEntries (operator : S3ConditionOperator) (entries : Fields) :
    Checked (List S3PolicyCondition) :=
  entries.mapM fun entry => do
    let key ← returns (parseConditionKey entry.1)
    checkedParseCondition operator key entry.2

def checkedParseConditionOperators (conditionCount : Nat) :
    Fields → Checked (List S3PolicyCondition)
  | [] => returns (.ok [])
  | (operatorName, entries) :: operators => do
      let operator ← returns (parseConditionOperator operatorName)
      let entries ← returns (object entries unsupportedCondition)
      if entries.isEmpty then returns (.error (.validation unsupportedCondition))
      else if maxS3PolicyConditionKeys < conditionCount + entries.length then
        returns (.error (.limit limitExceeded))
      else do
        let conditions ← checkedParseConditionEntries operator entries
        let rest ← checkedParseConditionOperators (conditionCount + entries.length) operators
        returns (.ok (conditions ++ rest))

def checkedParseConditions (value : Value) : Checked (List S3PolicyCondition) := do
  let operators ← returns (object value unsupportedCondition)
  if operators.isEmpty then returns (.error (.validation unsupportedCondition))
  else if maxS3PolicyConditionOperators < operators.length then
    returns (.error (.limit limitExceeded))
  else checkedParseConditionOperators 0 operators

theorem checkedParseConditionValue_eq (operator : S3ConditionOperator) (value : Value) :
    checkedParseConditionValue operator value = returns (parseConditionValue operator value) := by
  cases operator with
  | ipAddress | notIpAddress =>
      refine returns_bind fun value _ => ?_
      rw [IpNetwork.checkedParse_eq, orPanic_some, returns_ok_bind]
      exact returns_bind fun _ _ => rfl
  | _ => rfl

theorem checkedParseCondition_eq (operator : S3ConditionOperator) (key : S3ConditionKey)
    (value : Value) :
    checkedParseCondition operator key value = returns (parseCondition operator key value) := by
  rw [checkedParseCondition, parseCondition]
  split
  · rfl
  · refine returns_bind fun rawValues _ => ?_
    split
    · rfl
    · split
      · rfl
      · rw [mapM_returns fun value _ => checkedParseConditionValue_eq operator value]
        exact returns_bind fun _ _ => rfl

theorem checkedParseConditionOperators_eq (conditionCount : Nat) (operators : Fields) :
    checkedParseConditionOperators conditionCount operators =
      returns (parseConditionOperators conditionCount operators) := by
  induction operators generalizing conditionCount with
  | nil => rfl
  | cons entry operators ih =>
      obtain ⟨operatorName, entries⟩ := entry
      rw [checkedParseConditionOperators, parseConditionOperators]
      refine returns_bind fun operator _ => returns_bind fun entries _ => ?_
      split
      · rfl
      · split
        · rfl
        · have hentries : checkedParseConditionEntries operator entries =
              returns (parseConditionEntries operator entries) :=
            mapM_returns fun entry _ =>
              returns_bind fun key _ => checkedParseCondition_eq operator key entry.2
          rw [hentries, ih]
          exact returns_bind fun _ _ => returns_bind fun _ _ => rfl

theorem checkedParseConditions_eq (value : Value) :
    checkedParseConditions value = returns (parseConditions value) := by
  refine returns_bind fun operators _ => ?_
  split
  · rfl
  · split
    · rfl
    · exact checkedParseConditionOperators_eq 0 operators

def checkedOptionalField (value : Option Value) (parse : Value → Checked α) :
    Checked (Option α) :=
  match value with
  | none => returns (.ok none)
  | some value => do
      let parsed ← parse value
      returns (.ok (some parsed))

def checkedExclusiveClause (object : Fields) (positive negative : String)
    (parse : Value → Checked α) : Checked (Clause α) :=
  match object.get positive.toList, object.get negative.toList with
  | some _, some _ => returns (.error (.validation invalidStatement))
  | none, none => returns (.error (.validation invalidStatement))
  | some value, none => do
      let parsed ← parse value
      returns (.ok (.positive parsed))
  | none, some value => do
      let parsed ← parse value
      returns (.ok (.negative parsed))

theorem checkedOptionalField_eq {parse : Value → Except S3PolicyError α}
    {checked : Value → Checked α} (h : ∀ value, checked value = returns (parse value))
    (value : Option Value) :
    checkedOptionalField value checked = returns (optionalField value parse) := by
  cases value with
  | none => rfl
  | some value =>
      rw [checkedOptionalField, h, optionalField, returns_map]

theorem checkedExclusiveClause_eq {parse : Value → Except S3PolicyError α}
    {checked : Value → Checked α} (h : ∀ value, checked value = returns (parse value))
    (object : Fields) (positive negative : String) :
    checkedExclusiveClause object positive negative checked =
      returns (exclusiveClause object positive negative parse) := by
  rw [checkedExclusiveClause, exclusiveClause]
  cases object.get positive.toList with
  | none =>
      cases object.get negative.toList with
      | none => rfl
      | some value =>
          dsimp only
          rw [h, returns_map]
  | some value =>
      cases object.get negative.toList with
      | none =>
          dsimp only
          rw [h, returns_map]
      | some other => rfl

def checkedParsePrincipalClause (statement : Fields) (policyKind : S3PolicyKind) :
    Checked (Option S3PrincipalClause) :=
  match policyKind with
  | .bucket _ => do
      match ← checkedExclusiveClause statement "Principal" "NotPrincipal"
          checkedParsePrincipal with
      | .positive value => returns (.ok (some (.principal value)))
      | .negative value => returns (.ok (some (.notPrincipal value)))
  | .identity => returns (.ok none)

def checkedParseActionClause (statement : Fields) (policyKind : S3PolicyKind) :
    Checked S3ActionClause := do
  let actions ← returns (exclusiveClause statement "Action" "NotAction" fun value =>
    parsePatterns value maxS3PolicyActions unsupportedAction)
  match actions with
  | .positive patterns => do
      checkedValidateActionPatterns patterns false policyKind.supportedActions
      returns (.ok (.action patterns))
  | .negative patterns => do
      checkedValidateActionPatterns patterns true policyKind.supportedActions
      returns (.ok (.notAction patterns))

def checkedParseStatement (value : Value) (policyKind : S3PolicyKind) :
    Checked ParsedPolicyStatement := do
  let statement ← returns (object value invalidStatement)
  returns (rejectUnknownFields statement (allowedFields policyKind))
  let sid ← returns (optionalField (statement.get "Sid".toList) parseSid)
  let effect ← returns (parseEffect statement)
  let principal ← checkedParsePrincipalClause statement policyKind
  let actions ← checkedParseActionClause statement policyKind
  let resources ← returns (parseResourceClause statement policyKind)
  checkedValidateActionResourceCompatibility actions resources policyKind
  let conditions ← checkedOptionalField (statement.get "Condition".toList) checkedParseConditions
  returns (.ok { sid, effect, principal, actions, resources, conditions := conditions.getD [] })

theorem checkedParsePrincipalClause_eq (statement : Fields) (policyKind : S3PolicyKind) :
    checkedParsePrincipalClause statement policyKind =
      returns (parsePrincipalClause statement policyKind) := by
  cases policyKind with
  | identity => rfl
  | bucket targetBucket =>
      rw [checkedParsePrincipalClause, checkedExclusiveClause_eq checkedParsePrincipal_eq]
      refine returns_bind fun clause _ => ?_
      cases clause with
      | positive value => rfl
      | negative value => rfl

theorem checkedParseActionClause_eq (statement : Fields) (policyKind : S3PolicyKind) :
    checkedParseActionClause statement policyKind =
      returns (parseActionClause statement policyKind) := by
  refine returns_bind fun clause _ => ?_
  cases clause with
  | positive patterns | negative patterns =>
      dsimp only
      rw [checkedValidateActionPatterns_eq]
      exact returns_bind fun _ _ => rfl

theorem checkedParseStatement_eq (value : Value) (policyKind : S3PolicyKind) :
    checkedParseStatement value policyKind = returns (parseStatement value policyKind) := by
  refine returns_bind fun statement _ => returns_bind fun _ _ => returns_bind fun sid _ =>
    returns_bind fun effect _ => ?_
  rw [checkedParsePrincipalClause_eq, checkedParseActionClause_eq]
  refine returns_bind fun principal _ => returns_bind fun actions _ =>
    returns_bind fun resources hresources => ?_
  rw [checkedValidateActionResourceCompatibility_eq actions
    (validResource_of_parseResourceClause hresources),
    checkedOptionalField_eq checkedParseConditions_eq]
  exact returns_bind fun _ _ => returns_bind fun _ _ => rfl

end MediaHub.Policy
