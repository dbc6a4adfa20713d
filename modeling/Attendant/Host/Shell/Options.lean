import Attendant.Host.Shell.State

/-!
# Options of a shell

How a shell reads its options, be it when it is started or when it is told to set them: letters behind a minus or a plus,
and names behind the letter `o`.
-/

namespace Attendant.Host.Shell

/-- What has been read of the options: the shell that has them, the arguments that are left, whether a mark has ended them,
whether a script is the next argument, and what there is to show. -/
structure OptionReading where
  state : State
  rest : List (List Char) := []
  isMarked : Bool := false
  hasScript : Bool := false
  shown : List Char := []

namespace OptionReading

/-- All options, as they are shown. -/
private def listing (s : State) (isOn : Bool) : List Char :=
  let lines := optionNames.map fun (name, letter) =>
    let isSet := (letter.map s.has).getD false
    if isOn then name ++ String.ofList (List.replicate (16 - name.length) ' ') ++ if isSet then "on" else "off"
    else (if isSet then "set -o " else "set +o ") ++ name
  ((if isOn then ["Current option settings"] else []) ++ lines).flatMap fun line => (line ++ "\n").toList

/-- An option by its name, or all of them if there is none. -/
private def named (r : OptionReading) (isOn : Bool) : Except (List Char) OptionReading :=
  match r.rest with
  | [] => .ok { r with shown := r.shown ++ listing r.state isOn }
  | name :: rest =>
    match optionNames.lookup (String.ofList name) with
    | some (some letter) => .ok { r with state := r.state.setOption letter isOn, rest }
    | some none => .ok { r with rest }
    | none => .error ("Illegal option -o ".toList ++ name)

/-- The letters of an argument. -/
private def letters (atStart isOn : Bool) : List Char → OptionReading → Except (List Char) OptionReading
  | [], r => .ok r
  | c :: more, r => do
    if c == 'c' && atStart then letters atStart isOn more { r with hasScript := true }
    else if c == 'l' && atStart then letters atStart isOn more r
    else if c == 'o' then letters atStart isOn more (← named r isOn)
    else if optionNames.any (·.2 == some c) then
      letters atStart isOn more { r with state := r.state.setOption c isOn }
    else .error ("Illegal option -".toList ++ [c])

private def readFrom (atStart : Bool) : Nat → OptionReading → Except (List Char) OptionReading
  | 0, r => .ok r
  | fuel + 1, r =>
    match r.rest with
    | ['-'] :: rest =>
      .ok { r with rest, state := if atStart then r.state else (r.state.setOption 'x' false).setOption 'v' false }
    | ['-', '-'] :: rest => .ok { r with rest, isMarked := true }
    | ('-' :: cs) :: rest => do readFrom atStart fuel (← letters atStart true cs { r with rest })
    | ('+' :: cs) :: rest => do readFrom atStart fuel (← letters atStart false cs { r with rest })
    | _ => .ok r

/-- Reads the options at the start of some arguments; `atStart` is true for those that a shell is started with. -/
def read (atStart : Bool) (s : State) (args : List (List Char)) : Except (List Char) OptionReading :=
  readFrom atStart (args.length + 1) { state := s, rest := args }

end OptionReading

/-- The shell that some arguments, of which the first is its own name, and an environment start; `script?` are the texts of
files, or why they cannot be read. What is wrong is said, and ends it. -/
def State.start (process : Nat) (here : List Char) (env : List (List Char × List Char)) (args : List (List Char))
    (script? : List Char → Except (List Char) (List Char)) : State :=
  let kept := (imported env).filter fun v => !(["IFS", "OPTIND", "PWD"].contains (String.ofList v.name))
  let own : List Variable :=
    [⟨"IFS".toList, some " \t\n".toList, false, false⟩, ⟨"OPTIND".toList, some ['1'], false, false⟩,
      ⟨"PWD".toList, some here, true, false⟩]
  let name := args.headD "sh".toList
  let s : State := { name, process, bindings := kept ++ own }
  let refuse (s : State) (text : List Char) : State := { s with line := 0 }.die text
  match OptionReading.read true s (args.drop 1) with
  | .error text => refuse s text
  | .ok r =>
    let s := r.state
    if r.hasScript then
      match r.rest with
      | [] => refuse s "-c requires an argument".toList
      | script :: rest =>
        { s with name := rest.head?.getD name, params := rest.drop 1, work := [.script { rest := script } false] }
    else
      match r.rest with
      | file :: rest =>
        if s.has 's' then { s with params := r.rest, work := [.script { rest := [], isWhole := false } false] }
        else
          match script? file with
          | .ok text => { s with name := file, params := rest, work := [.script { rest := text } false] }
          | .error reason => refuse s ("cannot open ".toList ++ file ++ ": ".toList ++ reason)
      | [] => { s.setOption 's' true with work := [.script { rest := [], isWhole := false } false] }

end Attendant.Host.Shell
