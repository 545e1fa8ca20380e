import Metaobject.TypeRef
import Metaobject.Exception

/-!
# Failures

Why an operation of the object model fails. Every failure is kept as its cause, and the `message`
function of its type says what is written for it.
-/

namespace Metaobject

/-- How an invoker reaches its member, the fastest way first. -/
inductive Tier where
  /-- Through an entry that the member itself provides. -/
  | native
  /-- Through a handle that is bound to the member once. -/
  | typedHandle
  /-- By looking the member up at each use. -/
  | reflective
deriving DecidableEq

namespace Tier

def text : Tier → String
  | .native => "native"
  | .typedHandle => "typed-handle"
  | .reflective => "reflective"

/-- The place of a tier, the fastest first. -/
def rank : Tier → Nat
  | .native => 0
  | .typedHandle => 1
  | .reflective => 2

end Tier

/-- Why a tier makes no invoker, or an allocator no instance. -/
inductive TierFailure where
  | disabled (tier : Tier)
  | inaccessible (member : String)
  | finalField (member : String)
  | noNativeEntry (member : String)
  | unsupported (capability : String)
deriving DecidableEq

namespace TierFailure

def message : TierFailure → String
  | .disabled tier => "层级已禁用: " ++ tier.text
  | .inaccessible member => "成员不可访问: " ++ member
  | .finalField member => "无法为 final 字段绑定写句柄: " ++ member
  | .noNativeEntry member => "缺少原生入口: " ++ member
  | .unsupported capability => "运行时能力不可用: " ++ capability

/-- Whether the tier does not apply at all, as against having tried and failed. -/
def isUnavailable : TierFailure → Bool
  | .disabled _ | .noNativeEntry _ | .unsupported _ => true
  | .inaccessible _ | .finalField _ => false

end TierFailure

/-- What is wrong with the description of a class. -/
inductive ClassDefect where
  | blankName
  | notInterface (name : String)
  | interfaceExtends
  | interfaceMembers
  | noDefaultConstructor (superclass : String)
  | repeatedConstructor (params : List TypeRef)
  | repeatedField (name : String)
deriving DecidableEq

def ClassDefect.message : ClassDefect → String
  | .blankName => "类名不能为空"
  | .notInterface name => name ++ " 不是接口"
  | .interfaceExtends => "接口不能继承类"
  | .interfaceMembers => "接口不能声明构造器或实例字段"
  | .noDefaultConstructor superclass => s!"父类 {superclass} 缺少无参构造器"
  | .repeatedConstructor params => "重复的构造器签名 " ++ TypeRef.paramsText params
  | .repeatedField name => "重复的字段 " ++ name

/-- Why an invoker or a proxy class cannot be made. -/
inductive CompilationFault where
  /-- No tier made an invoker; each with its reason, in the order tried. -/
  | tiers (failures : List (Tier × TierFailure))
  /-- What is cached for the member is not an invoker of a constructor. -/
  | cachedNoConstructor
  /-- What is cached for the member is not an invoker of a field. -/
  | cachedNoField
  /-- A proxy is asked to implement something other than an interface. -/
  | targetNotInterface
  /-- The constructor without parameters of the superclass is missing or private. -/
  | superclassConstructor (superclass : String)
  | blankMethodName
  | voidParameter (method : String) (params : List TypeRef)
  /-- The description of the proxy class is defective. -/
  | defect (cause : ClassDefect)
  /-- A reason given by whoever was asked to make the invoker. -/
  | stated (reason : String)
deriving DecidableEq

/-- What is written for the reason of a failed compilation. -/
def CompilationFault.message : CompilationFault → String
  | .tiers failures =>
      "; ".intercalate (failures.map fun (tier, failure) => s!"{tier.text}: {failure.message}")
  | .cachedNoConstructor => "缓存项不是构造器调用器"
  | .cachedNoField => "缓存项不是字段调用器"
  | .targetNotInterface => "代理目标不是接口"
  | .superclassConstructor superclass => s!"父类 {superclass} 缺少可访问的无参构造器"
  | .blankMethodName => "方法名为空"
  | .voidParameter method params => s!"方法 {method}{TypeRef.paramsText params} 的参数不能为 void"
  | .defect cause => cause.message
  | .stated reason => reason

/-- Why a configuration is refused. -/
inductive ConfigFailure where
  | fileNotFound (path : String)
  /-- The text is not in its format, or does not describe a configuration. -/
  | unreadable
  /-- The namespace of generated classes is blank, or begins or ends with a dot. -/
  | invalidNamespace (name : String)
deriving DecidableEq

def ConfigFailure.message : ConfigFailure → String
  | .fileNotFound path => "配置文件不存在: " ++ path
  | .unreadable => "配置解析失败"
  | .invalidNamespace name => s!"配置验证失败: 代理命名空间无效: '{name}'"

/-- Why a text is not a pattern. -/
inductive PatternFault where
  /-- It does not have the form of a pattern, or asks for classes or cases of all characters. -/
  | malformed
  /-- It asks where words of all alphabets begin or end. -/
  | unicodeBoundary
deriving DecidableEq

def PatternFault.message : PatternFault → String
  | .malformed => "error building NFA"
  | .unicodeBoundary =>
      "unsupported regex feature for DFAs: cannot build DFAs for regexes with Unicode word " ++
        "boundaries; switch to ASCII word boundaries, or heuristically enable Unicode word " ++
        "boundaries or use a different regex engine"

/-- Why the text of a log filter is refused. -/
inductive FilterFault where
  /-- The text does not have the form of a directive. -/
  | directive
  /-- What should be a level is none. -/
  | level
  /-- The value of a field is not a pattern. -/
  | field (cause : PatternFault)
deriving DecidableEq

def FilterFault.message : FilterFault → String
  | .directive => "invalid filter directive"
  | .level =>
      "error parsing level filter: expected one of \"off\", \"error\", \"warn\", \"info\", " ++
        "\"debug\", \"trace\", or a number 0-5"
  | .field cause => "invalid field filter: " ++ cause.message

/-- Why a reflector cannot be started. -/
inductive BootstrapFault where
  | loading (cause : ConfigFailure)
  | validating (cause : ConfigFailure)
  | filter (directives : String) (cause : FilterFault)
  | loggerAlreadySet
deriving DecidableEq

/-- What is written when a reflector cannot be started. -/
def BootstrapFault.message : BootstrapFault → String
  | .loading cause => "配置加载失败: " ++ cause.message
  | .validating cause => "配置校验失败: " ++ cause.message
  | .filter directives cause => s!"日志过滤指令无效 '{directives}': {cause.message}"
  | .loggerAlreadySet => "日志初始化失败: a global default trace dispatcher has already been set"

/-- Why an operation of the object model fails. -/
inductive Failure where
  | memberNotFound (owner member : String)
  | ambiguousConstructor (owner : String) (candidates : Nat)
  | argumentTypeMismatch (index : Nat) (expected actual : String)
  | invalidSuperclass (typeName : String)
  | compilationFailure (target : String) (cause : CompilationFault)
  | duplicateClass (name : String)
  | classNotFound (name : String)
  | invalidMetadata (typeName : String) (cause : ClassDefect)
  | handlerAlreadyBound (typeName : String)
  | bootstrapFailed (cause : BootstrapFault)
  | invocation (exception : Exception)
  /-- Bodies called each other more deeply than allowed. -/
  | tooDeep
deriving DecidableEq

/-- What is written for a failure. An exception is written as it is. -/
def Failure.message : Failure → String
  | .memberNotFound owner member => s!"成员未找到: {owner}.{member}"
  | .ambiguousConstructor owner candidates =>
      s!"构造器匹配存在歧义: {owner}, 候选数量: {candidates}"
  | .argumentTypeMismatch index expected actual =>
      s!"参数类型不匹配: 索引 {index}, 期望 {expected}, 实际 {actual}"
  | .invalidSuperclass typeName => s!"无效的父类: {typeName} 是接口"
  | .compilationFailure target cause => s!"编译失败: {target}, 原因: {cause.message}"
  | .duplicateClass name => "类已定义: " ++ name
  | .classNotFound name => "类未找到: " ++ name
  | .invalidMetadata typeName cause => s!"类元数据无效: {typeName}, 原因: {cause.message}"
  | .handlerAlreadyBound typeName => "代理处理器已绑定: " ++ typeName
  | .bootstrapFailed cause => "运行时启动失败: " ++ cause.message
  | .invocation exception => exception.text
  | .tooDeep => "调用层次过深"

end Metaobject
