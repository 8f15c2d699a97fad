import MediaLibrary.Query.Basic

/-!
# Errors

Every operation of the library ends with its answer or with an `Error`. An error
is its cause; the code that programs act on and the message that people read are
functions of the cause.

* `Error.code`, `Error.message` — the two views of an error;
* `Error.isUserError` — whether the user can put it right.
-/

namespace MediaLibrary

-- ---------------------------------------------------------------------------
-- Causes
-- ---------------------------------------------------------------------------

/-- What the store objects to. -/
inductive StorageFault where
  /-- Another medium has this content. -/
  | duplicateHash
  /-- Another tag has this name. -/
  | duplicateName
  /-- A row names one that does not exist. -/
  | missingReference
  /-- A sum has more than 64 bits. -/
  | sumOverflow
  /-- The tables were never created. -/
  | missingTable (table : String)
  /-- A stored rating stands for none. -/
  | unknownRating (text : String)
  /-- A stored kind of media stands for none. -/
  | unknownKind (text : String)
  /-- A stored category stands for none. -/
  | unknownCategory (code : Int)
  /-- A query for one row found none. -/
  | noRow
  /-- A statement has more places for parameters than the store counts; the first of these is at
  this byte. -/
  | tooManyPlaces (statement : String) (offset : Nat)
  /-- The expressions of a statement nest more deeply than the store follows. -/
  | tooManyLevels
  /-- A pattern is longer than the store reads. -/
  | patternTooLong
deriving DecidableEq

/-- What is wrong with the input of an operation. -/
inductive InputFault where
  | limitNotPositive (limit : Int)
  | offsetNegative (offset : Int)
  | severalAnchors
  | suggestionLimit
  | blankTagName
  | emptyTagName
  | invalidTagChar (name : String) (character : Char)
  | tagNameBegin (name : String) (character : Char)
  | tagNameEnd (name : String) (character : Char)
  | parentOfItself
  | stated (text : String)
deriving DecidableEq

/-- What does not exist. -/
inductive Missing where
  | media (id : Int)
  | parent (id : Int)
  | stated (text : String)
deriving DecidableEq

/-- What is wrong with the settings or their file. -/
inductive SettingsFault where
  | directoryNotMade
  | fileNotReadable
  | fileNotWritable
  | fileMalformed
  | cacheSize (size : Int)
  | pageSize
  | pageSizeAboveMax (size max : Int)
  | stated (text : String)
deriving DecidableEq

/-- The groups of a query. -/
inductive TagGroup where
  | included
  | optional
  | excluded
deriving DecidableEq

/-- The name of a group. -/
def TagGroup.name : TagGroup → String
  | included => "include"
  | optional => "optional"
  | excluded => "exclude"

/-- What should never happen. -/
inductive Defect where
  /-- A query holds a name of blanks only. -/
  | blankName (group : TagGroup)
  /-- A task failed while it held the lock of the store. -/
  | brokenLock
  | stated (text : String)
deriving DecidableEq

/-- Why an operation failed. -/
inductive Error where
  | storage (fault : StorageFault)
  | io (text : String)
  | serialization (text : String)
  | parse (e : ParseError)
  | input (fault : InputFault)
  | notFound (missing : Missing)
  | settings (fault : SettingsFault)
  | defect (defect : Defect)
deriving DecidableEq

-- ---------------------------------------------------------------------------
-- Messages
-- ---------------------------------------------------------------------------

/-- The text of a fault of the store. -/
def StorageFault.message : StorageFault → String
  | duplicateHash => "UNIQUE constraint failed: media.content_hash"
  | duplicateName => "UNIQUE constraint failed: tags.name"
  | missingReference => "FOREIGN KEY constraint failed"
  | sumOverflow => "integer overflow"
  | missingTable table => "no such table: " ++ table
  | unknownRating text => "Conversion error from type Text at index: 9, 未知分级: " ++ text
  | unknownKind text => "Conversion error from type Text at index: 3, 未知媒体类型: " ++ text
  | unknownCategory code => "Integer " ++ toString code ++ " out of range at index 2"
  | noRow => "Query returned no rows"
  | tooManyPlaces statement offset =>
    "too many SQL variables in " ++ statement ++ " at offset " ++ toString offset
  | tooManyLevels => "Expression tree is too large (maximum depth 1000)"
  | patternTooLong => "LIKE or GLOB pattern too complex"

/-- The text of a fault of the input. -/
def InputFault.message : InputFault → String
  | limitNotPositive limit => "limit 必须为正数: " ++ toString limit
  | offsetNegative offset => "offset 不能为负数: " ++ toString offset
  | severalAnchors => "afterID、beforeID 与 offset 只能指定一个"
  | suggestionLimit => "limit 必须为正数"
  | blankTagName | emptyTagName => "标签名不能为空"
  | invalidTagChar name character =>
    "标签 '" ++ name ++ "' 包含非法字符 " ++ Text.quoted character
  | tagNameBegin name character =>
    "标签 '" ++ name ++ "' 不能以 '" ++ character.toString ++ "' 开头"
  | tagNameEnd name character =>
    "标签 '" ++ name ++ "' 不能以 '" ++ character.toString ++ "' 结尾"
  | parentOfItself => "媒体不能以自身为父媒体"
  | stated text => text

/-- The text of what does not exist. -/
def Missing.message : Missing → String
  | media id => "媒体 " ++ toString id
  | parent id => "父媒体 " ++ toString id
  | stated text => text

/-- The text of a fault of the settings. What the file system or the reader of the file has to
say about it is left out. -/
def SettingsFault.message : SettingsFault → String
  | directoryNotMade => "无法创建配置目录: "
  | fileNotReadable => "无法读取设置文件: "
  | fileNotWritable => "无法保存设置文件: "
  | fileMalformed => "设置文件格式错误: "
  | cacheSize size => "缓存大小必须为正数: " ++ toString size
  | pageSize => "页大小必须为正数"
  | pageSizeAboveMax size max =>
    "默认页大小 " ++ toString size ++ " 超过上限 " ++ toString max
  | stated text => text

/-- The text of a defect. -/
def Defect.message : Defect → String
  | blankName group => group.name ++ " 组中存在空标签名"
  | brokenLock => "数据库锁已损坏: poisoned lock: another task failed inside"
  | stated text => text

namespace Error

/-- The text of an error. -/
def message : Error → String
  | storage fault => "数据库错误: " ++ fault.message
  | io text => "IO 错误: " ++ text
  | serialization text => "序列化错误: " ++ text
  | parse e => "查询语法错误: " ++ e.message
  | input fault => "参数无效: " ++ fault.message
  | notFound missing => "未找到: " ++ missing.message
  | settings fault => "配置错误: " ++ fault.message
  | defect d => "内部错误: " ++ d.message

/-- The code of an error, which stays the same when the wording changes. -/
def code : Error → String
  | storage _ => "E_DB_ERROR"
  | io _ => "E_IO_ERROR"
  | serialization _ => "E_SERIALIZATION"
  | parse (.invalidCharacter _ _) => "E_PARSE_INVALID_CHARACTER"
  | parse (.emptyTag _) => "E_PARSE_EMPTY_TAG"
  | input _ => "E_INVALID_INPUT"
  | notFound _ => "E_NOT_FOUND"
  | settings _ => "E_CONFIG"
  | defect _ => "E_INTERNAL"

/-- The user can put it right and try again. -/
def isUserError : Error → Bool
  | parse _ | input _ => true
  | _ => false

/-- The line that names code and message. -/
def line (e : Error) : String :=
  "[" ++ e.code ++ "] " ++ e.message

end Error

end MediaLibrary
