/-!
# Command codes

A worker stream names every command by a short text code. This module holds the commands the
gateway knows, their codes, and the reading of a code: a code that is not in the list is kept
verbatim, so that it can be relayed. What is written on a stream or in a document is a whole text,
`Command.toText`, and what is read from there is taken over as one, `Command.ofText`.

Main definitions: `Command.code`, `Command.ofCode`, `Command.ofText`, `Command.toText`,
`Command.timeoutClass`.
-/

set_option autoImplicit false

namespace Switchboard

/-- How long a caller is willing to wait for the reply to a command. -/
inductive TimeoutClass
  /-- Ordinary calls. -/
  | standard
  /-- Batch operations that touch many records. -/
  | bulk
  /-- Large binary transfers. -/
  | transfer
  deriving DecidableEq, Repr, Inhabited

/-- The name of a timeout class in reports. -/
def TimeoutClass.name : TimeoutClass → String
  | .standard => "Standard"
  | .bulk => "Bulk"
  | .transfer => "Transfer"

/-- A command carried on a worker stream. -/
inductive Command
  | register
  | pong
  | gracefulRestart
  | signUp
  | signIn
  | signOut
  | getProfile
  | updateProfile
  | changeMasterPassword
  | deleteAccount
  | refreshToken
  | checkTx
  | deliverTx
  | queryTx
  | batchDeliverTx
  | listItems
  | getItem
  | createItem
  | updateItem
  | deleteItem
  | shareItem
  | importItems
  | exportItems
  | syncVault
  | indexItem
  | searchItems
  | rebuildIndex
  | dropIndex
  | uploadFile
  | downloadFile
  | deleteFile
  | statFile
  /-- A code outside the list, kept as it was received. -/
  | unrecognized (code : String)
  deriving DecidableEq, Repr, Inhabited

namespace Command

/-- The code that stands for a command on a stream. -/
def code : Command → String
  | register => "1"
  | pong => "2"
  | gracefulRestart => "3"
  | signUp => "10"
  | signIn => "11"
  | signOut => "12"
  | getProfile => "13"
  | updateProfile => "14"
  | changeMasterPassword => "15"
  | deleteAccount => "16"
  | refreshToken => "17"
  | checkTx => "20"
  | deliverTx => "21"
  | queryTx => "22"
  | batchDeliverTx => "23"
  | listItems => "30"
  | getItem => "31"
  | createItem => "32"
  | updateItem => "33"
  | deleteItem => "34"
  | shareItem => "35"
  | importItems => "36"
  | exportItems => "37"
  | syncVault => "38"
  | indexItem => "40"
  | searchItems => "41"
  | rebuildIndex => "42"
  | dropIndex => "43"
  | uploadFile => "50"
  | downloadFile => "51"
  | deleteFile => "52"
  | statFile => "53"
  | unrecognized code => code

/-- The commands that have a code of their own. -/
def known : List Command :=
  [register, pong, gracefulRestart,
    signUp, signIn, signOut, getProfile, updateProfile, changeMasterPassword, deleteAccount,
    refreshToken,
    checkTx, deliverTx, queryTx, batchDeliverTx,
    listItems, getItem, createItem, updateItem, deleteItem, shareItem, importItems, exportItems,
    syncVault,
    indexItem, searchItems, rebuildIndex, dropIndex,
    uploadFile, downloadFile, deleteFile, statFile]

/-- Reads a code: the known command that has it, or the code itself, unrecognised. -/
def ofCode : String → Command
  | "1" => register
  | "2" => pong
  | "3" => gracefulRestart
  | "10" => signUp
  | "11" => signIn
  | "12" => signOut
  | "13" => getProfile
  | "14" => updateProfile
  | "15" => changeMasterPassword
  | "16" => deleteAccount
  | "17" => refreshToken
  | "20" => checkTx
  | "21" => deliverTx
  | "22" => queryTx
  | "23" => batchDeliverTx
  | "30" => listItems
  | "31" => getItem
  | "32" => createItem
  | "33" => updateItem
  | "34" => deleteItem
  | "35" => shareItem
  | "36" => importItems
  | "37" => exportItems
  | "38" => syncVault
  | "40" => indexItem
  | "41" => searchItems
  | "42" => rebuildIndex
  | "43" => dropIndex
  | "50" => uploadFile
  | "51" => downloadFile
  | "52" => deleteFile
  | "53" => statFile
  | other => unrecognized other

/-- The command of a text that was received. One outside the list keeps that very text. -/
def ofText (text : String) : Command :=
  match ofCode text with
  | unrecognized _ => unrecognized text
  | known => known

/-- The text to send for a command. -/
def toText : Command → String
  | unrecognized code => code
  | known => known.code

/-- In messages a command stands as its code. -/
instance : ToString Command := ⟨code⟩

/-- The name of a command in reports. -/
def name : Command → String
  | register => "Register"
  | pong => "Pong"
  | gracefulRestart => "GracefulRestart"
  | signUp => "SignUp"
  | signIn => "SignIn"
  | signOut => "SignOut"
  | getProfile => "GetProfile"
  | updateProfile => "UpdateProfile"
  | changeMasterPassword => "ChangeMasterPassword"
  | deleteAccount => "DeleteAccount"
  | refreshToken => "RefreshToken"
  | checkTx => "CheckTx"
  | deliverTx => "DeliverTx"
  | queryTx => "QueryTx"
  | batchDeliverTx => "BatchDeliverTx"
  | listItems => "ListItems"
  | getItem => "GetItem"
  | createItem => "CreateItem"
  | updateItem => "UpdateItem"
  | deleteItem => "DeleteItem"
  | shareItem => "ShareItem"
  | importItems => "ImportItems"
  | exportItems => "ExportItems"
  | syncVault => "SyncVault"
  | indexItem => "IndexItem"
  | searchItems => "SearchItems"
  | rebuildIndex => "RebuildIndex"
  | dropIndex => "DropIndex"
  | uploadFile => "UploadFile"
  | downloadFile => "DownloadFile"
  | deleteFile => "DeleteFile"
  | statFile => "StatFile"
  | unrecognized _ => "Unrecognized"

/-- A control signal is handled by the session that receives it and is never a reply. -/
def isControl : Command → Bool
  | gracefulRestart => true
  | _ => false

/-- The codes that only manage a stream and cannot be sent as requests. -/
def isLifecycle : Command → Bool
  | register | pong | gracefulRestart => true
  | _ => false

/-- The class that decides how long a call of the command may take. -/
def timeoutClass : Command → TimeoutClass
  | batchDeliverTx | importItems | exportItems | syncVault | rebuildIndex => .bulk
  | uploadFile | downloadFile => .transfer
  | _ => .standard

end Command

end Switchboard
