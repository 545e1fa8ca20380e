import Metaobject.Program
import Metaobject.Text.Hex

/-!
# Scripts

A small language in which the bodies of constructors, methods, accessors and handlers can be
written as data. A script is a list of statements; `Script.routine` and `Script.handler` say which
program it stands for. A script that ends without an answer answers null.
-/

namespace Metaobject

/-- The text of a value in recorded texts: floating-point numbers by their bits, objects by their
class. -/
def Value.text : Value → String
  | .null => "null"
  | .boolean b => if b then "true" else "false"
  | .byte n => toString n.toInt
  | .short n => toString n.toInt
  | .char c => c.toString
  | .int n => toString n.toInt
  | .long n => toString n.toInt
  | .float bits => "f:" ++ Text.hexFilled 8 bits.toNat
  | .double bits => "d:" ++ Text.hexFilled 16 bits.toNat
  | .str s => s
  | .object o => "<" ++ o.cls.name ++ ">"

namespace Script

/-- An expression. -/
inductive Expr where
  /-- An argument by its position; null when there are fewer. -/
  | arg (index : Nat)
  | receiver
  /-- The name of the method that runs. -/
  | methodName
  | argCount
  /-- The field of the receiver with the given name; null when there is none. -/
  | field (name : String)
  /-- The texts of the parts, one after the other. -/
  | concat (parts : List Expr)
  /-- Calls a method of the receiver; an exception of the call ends the script. -/
  | call (method : String) (args : List Expr)
  | literal (value : Value)

/-- A statement. -/
inductive Statement where
  | record (e : Expr)
  /-- Writes a field of the receiver; an exception ends the script. -/
  | store (field : String) (e : Expr)
  /-- Ends with an exception of the given class. -/
  | raise (className : String) (message : Expr)
  | answer (e : Expr)
  /-- Evaluates an expression for its effect. -/
  | evaluate (e : Expr)
  /-- Binds a handler to the receiver and records whether none was bound before. -/
  | bindHandler (entries : List (String × List Statement))
  /-- Runs the statements if the two values are the same. -/
  | whenSame (a b : Expr) (body : List Statement)

/-- What a script runs with. -/
structure Context where
  receiver : ObjectRef
  methodName : String
  args : List Value

mutual

/-- Evaluates an expression and goes on with its value. -/
def Expr.eval : Expr → Context → (Value → Program) → Program
  | .arg i, ctx, k => k (ctx.args.getD i .null)
  | .receiver, ctx, k => k (.object ctx.receiver)
  | .methodName, ctx, k => k (.str ctx.methodName)
  | .argCount, ctx, k => k (.int (Int32.ofNat ctx.args.length))
  | .field name, ctx, k => .getField ctx.receiver name fun v => k (v.getD .null)
  | .concat parts, ctx, k => evalAll parts ctx fun vs => k (.str (String.join (vs.map Value.text)))
  | .call method args, ctx, k => evalAll args ctx fun vs => .invoke ctx.receiver method vs fun
      | .ok v => k v
      | .error e => .raise e
  | .literal v, _, k => k v

def evalAll : List Expr → Context → (List Value → Program) → Program
  | [], _, k => k []
  | e :: es, ctx, k => e.eval ctx fun v => evalAll es ctx fun vs => k (v :: vs)

end

/-- The handler that runs the entry under the name of the method, else the entry under the star. -/
def handlerOf (entries : List (String × (Context → Program))) : Handler := fun proxy method args =>
  match (entries.lookup method).or (entries.lookup "*") with
  | some p => p ⟨proxy, method, args⟩
  | none => .done .null

mutual

/-- Runs a statement and goes on with the next program. -/
def Statement.run : Statement → Context → Program → Program
  | .record e, ctx, next => e.eval ctx fun v => .record v.text next
  | .store field e, ctx, next => e.eval ctx fun v => .setField ctx.receiver field v fun
      | .ok _ => next
      | .error e => .raise e
  | .raise className message, ctx, _ => message.eval ctx fun v => .raise ⟨className, v.text⟩
  | .answer e, ctx, _ => e.eval ctx .done
  | .evaluate e, ctx, next => e.eval ctx fun _ => next
  | .bindHandler entries, ctx, next =>
      .bindHandler ctx.receiver (handlerOf (runEntries entries)) fun bound =>
        .record (if bound then "bind:true" else "bind:false") next
  | .whenSame a b body, ctx, next => a.eval ctx fun v => b.eval ctx fun w =>
      if v.same w then runAll body ctx next else next

def runAll : List Statement → Context → Program → Program
  | [], _, next => next
  | s :: ss, ctx, next => s.run ctx (runAll ss ctx next)

def runEntries : List (String × List Statement) → List (String × (Context → Program))
  | [] => []
  | e :: es => runEntry e :: runEntries es

def runEntry : String × List Statement → String × (Context → Program)
  | (name, body) => (name, fun ctx => runAll body ctx (.done .null))

end

/-- The routine that a script stands for; `methodName` is the name it sees. -/
def routine (methodName : String) (body : List Statement) : Routine := fun this args =>
  runAll body ⟨this, methodName, args⟩ (.done .null)

/-- The handler that scripts stand for, one for each method name; the star stands for all methods
that have no entry of their own. -/
def handler (entries : List (String × List Statement)) : Handler := handlerOf (runEntries entries)

end Script

end Metaobject
