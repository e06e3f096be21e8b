import Playpen.Arguments
import Playpen.Guest.Behaviour

/-!
# Scripted guests

A small language of programs for the interpreter's place: instructions that
write, copy the input, look at the arguments, repeat others, and end the
program. A script is run by turning it into the behaviour it has with given
arguments (`Script.behaviour`).
-/

namespace Playpen.Guest

/-- How an argument is looked at. -/
inductive Test where
  | equals (text : String)
  | startsWith (text : String)

/-- The argument passes. -/
def Test.holds : Test → String → Bool
  | .equals text, arg => arg == text
  | .startsWith text, arg => text.toList.isPrefixOf arg.toList

/-- An instruction. -/
inductive Instruction where
  | write (stream : Nat) (bs : Bytes)
  /-- Copies what is left of the input. -/
  | echo (stream : Nat)
  /-- Copies at most `count` bytes of the input. -/
  | read (count : Nat) (stream : Nat)
  /-- Writes the arguments as they were handed over. -/
  | arguments (stream : Nat)
  /-- Writes the number of environment variables: there are none. -/
  | countVariables (stream : Nat)
  /-- Looks at an argument, counted from the last, which is number 1. -/
  | ifArgument (fromLast : Nat) (test : Test) (yes no : List Instruction)
  | repeated (times : Nat) (body : List Instruction)
  | halt (h : Halt)
  | spin
  | pause (d : Duration)

/-- The argument with that number, counted from the last, passes the test. -/
def argumentPasses (args : List String) (fromLast : Nat) (test : Test) : Bool :=
  match fromLast with
  | 0 => false
  | n + 1 => (args.reverse[n]?).any test.holds

mutual

/-- What an instruction does before `next`. -/
def Instruction.behaviour (args : List String) (next : Behaviour) : Instruction → Behaviour
  | .write stream bs => .write stream bs next
  | .echo stream => .read none fun bs => .write stream bs next
  | .read count stream => .read (some count) fun bs => .write stream bs next
  | .arguments stream => .write stream (Utf8.encode (Arguments.block args)) next
  | .countVariables stream => .write stream [48] next
  | .ifArgument fromLast test yes no =>
    if argumentPasses args fromLast test then Script.before args next yes
    else Script.before args next no
  | .repeated times body => Nat.repeat (fun next => Script.before args next body) times next
  | .halt h => .halt h
  | .spin => .spin
  | .pause d => .pause d next

/-- What instructions do before `next`. -/
def Script.before (args : List String) (next : Behaviour) : List Instruction → Behaviour
  | [] => next
  | i :: is => i.behaviour args (Script.before args next is)

end

/-- What a script does with these arguments: after the last instruction it
    returns. -/
def Script.behaviour (script : List Instruction) (args : List String) : Behaviour :=
  Script.before args (.halt .returned) script

end Playpen.Guest
