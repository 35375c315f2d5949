import AgentWorkshop.Shell.Stream

/-!
# The options of the shell

They are switched on and off by letters and by names, when a shell starts and
later on.
-/

namespace AgentWorkshop

namespace Shell

/-- The options by their names. Those that are known by no letter have a number
instead. -/
def optionNames : List (Text × CodePoint) :=
  [("errexit", 'e'), ("noglob", 'f'), ("ignoreeof", 'I'), ("interactive", 'i'), ("monitor", 'm'),
    ("noexec", 'n'), ("stdin", 's'), ("xtrace", 'x'), ("verbose", 'v'), ("vi", 'V'),
    ("emacs", 'E'), ("noclobber", 'C'), ("allexport", 'a'), ("notify", 'b'), ("nounset", 'u'),
    ("privileged", 'p'), ("nolog", '\x01'), ("debug", '\x02')].map fun (name, letter) =>
      (text name, CodePoint.ofChar letter)

namespace Exec

/-- Switches an option. There is no terminal that a shell could control jobs from; the
processes that it starts do not look for one. -/
def switch (letter : CodePoint) (on : Bool) : Exec Unit := do
  let p ← process
  if letter = 'm' && on && p.number = p.shellNumber then
    complainHere (text "can't access tty; job control turned off")
  else
    update fun p =>
      let others := p.options.filter fun c : CodePoint => c ≠ letter &&
        !(on && (letter = 'V' && c = 'E' || letter = 'E' && c = 'V'))
      { p with options := if on then letter :: others else others }

/-- Shows the options; before the shell has started none is off. -/
def showOptions (isStart asCommands : Bool) : Exec Unit := do
  let p ← process
  if !asCommands then print (text "Current option settings\n")
  optionNames.forM fun (name, letter) =>
    let on : Bool := isStart || p.options.contains letter
    print (if asCommands then text (if on then "set -o " else "set +o ") ++ name ++ text "\n"
      else name ++ List.replicate (16 - name.length) (' ' : CodePoint) ++
        text (if on then "on\n" else "off\n"))

/-- Switches the options that a word's letters name. Names of options come from
the words after it. Answers which of these are left, and whether the next one is
a script to be run. -/
def switchAll (isStart on : Bool) : Text → List Text → Exec (List Text × Bool)
  | [], rest => return (rest, false)
  | c :: letters, rest => do
    if isStart && c = 'c' then
      let (rest, _) ← switchAll isStart on letters rest
      return (rest, true)
    else if isStart && c = 'l' then switchAll isStart on letters rest
    else if c = 'o' then
      match rest with
      | [] => showOptions isStart (!on)
      | name :: _ =>
        match optionNames.lookup name with
        | some letter => switch letter on
        | none => fail (text "Illegal option -o " ++ name)
      switchAll isStart on letters (rest.drop 1)
    else
      if !(optionNames.any fun o => o.2 = c && 2 < c.val) then
        fail (text "Illegal option -" ++ [c])
      switch c on
      switchAll isStart on letters rest

/-- What is found before the parameters. -/
structure Start where
  /-- The words that are left. -/
  rest : List Text
  /-- The first of them is a script to be run. -/
  hasScript : Bool
  /-- The options were ended by two hyphens. -/
  isClosed : Bool

/-- Switches the options that words begin with. -/
def readOptions (isStart : Bool) : (fuel : Nat) → List Text → Exec Start
  | 0, rest => return ⟨rest, false, false⟩
  | _, [] => return ⟨[], false, false⟩
  | fuel + 1, word :: rest => do
    if word = text "-" || word = text "--" then
      if !isStart && word = text "-" then
        switch 'x' false
        switch 'v' false
      return ⟨rest, false, word = text "--"⟩
    match word with
    | sign :: letters =>
      if sign ≠ '-' && sign ≠ '+' then return ⟨word :: rest, false, false⟩
      let (rest, hasScript) ← switchAll isStart (sign = '-') letters rest
      let start ← readOptions isStart fuel rest
      return { start with hasScript := start.hasScript || hasScript }
    | [] => return ⟨word :: rest, false, false⟩

end Exec

end Shell

end AgentWorkshop
