import Parley.Bots.ChatCommands
import Parley.Bots.Hashtags
import Parley.Bots.Inbox
import Parley.Bots.KnockKnock
import Parley.Bots.MathWiz
import Parley.Calendar.Date
import Parley.Calendar.Instant
import Parley.Channel.Chat
import Parley.Channel.Console
import Parley.Channel.Error
import Parley.Channel.Mail
import Parley.Channel.MailPoller
import Parley.Channel.Microblog
import Parley.Channel.PubSub
import Parley.Config
import Parley.Conversation.Router
import Parley.Dispatch
import Parley.Handler.Group
import Parley.Handler.Pattern
import Parley.Handler.Reply
import Parley.Imap.Response
import Parley.Imap.Session
import Parley.Journal
import Parley.Json.Quote
import Parley.Json.Reader
import Parley.Mail.Address
import Parley.Mail.Base64
import Parley.Mail.Boundary
import Parley.Mail.Charset
import Parley.Mail.CodePage
import Parley.Mail.ContentType
import Parley.Mail.Header
import Parley.Mail.Mailbox
import Parley.Mail.Markup
import Parley.Mail.Part
import Parley.Mail.QuotedPrintable
import Parley.Mail.Span
import Parley.Mail.Transfer
import Parley.Mail.Word
import Parley.Main
import Parley.Message
import Parley.Number.Decimal
import Parley.Number.Integer
import Parley.Program
import Parley.Proofs.Bots.Arithmetic
import Parley.Proofs.Bots.KnockKnock
import Parley.Proofs.Bots.Operation
import Parley.Proofs.Bots.Question
import Parley.Proofs.Bots.Wording
import Parley.Proofs.Channel.Replies
import Parley.Proofs.Channel.Session
import Parley.Proofs.Conversation.Entry
import Parley.Proofs.Conversation.Interleaving
import Parley.Proofs.Conversation.Isolation
import Parley.Proofs.Conversation.LastWord
import Parley.Proofs.Conversation.Parking
import Parley.Proofs.Conversation.Run
import Parley.Proofs.Dispatch.Candidates
import Parley.Proofs.Dispatch.Delivery
import Parley.Proofs.Dispatch.Leading
import Parley.Proofs.Dispatch.Order
import Parley.Proofs.Dispatch.Return
import Parley.Proofs.Handler.Pattern
import Parley.Proofs.Imap.CommandLine
import Parley.Proofs.Imap.Exchange
import Parley.Proofs.Imap.Fetching
import Parley.Proofs.Imap.Framing
import Parley.Proofs.Imap.Talk
import Parley.Proofs.Imap.Transmission
import Parley.Proofs.Journal
import Parley.Proofs.Json.Written
import Parley.Proofs.Mail.History
import Parley.Proofs.Mail.Poll
import Parley.Proofs.Microblog.Delivery
import Parley.Proofs.PubSub.Echo
import Parley.Proofs.PubSub.Subscription
import Parley.Proofs.Reader.Bracket
import Parley.Proofs.Reader.Construct
import Parley.Proofs.Reader.Escape
import Parley.Proofs.Reader.Group
import Parley.Proofs.Reader.Opening
import Parley.Proofs.Reader.Shift
import Parley.Proofs.Regex.Exploration
import Parley.Proofs.Regex.Parts
import Parley.Proofs.Regex.Position
import Parley.Proofs.Regex.Preference
import Parley.Proofs.Regex.Search
import Parley.Proofs.Regex.Span
import Parley.Proofs.Regex.Thread
import Parley.Proofs.Regex.Whole
import Parley.Proofs.Template.Capture
import Parley.Proofs.Template.Compile
import Parley.Proofs.Template.Grammar
import Parley.Proofs.Template.Match
import Parley.Proofs.Template.OwnGroup
import Parley.Proofs.Template.Pair
import Parley.Proofs.Template.RoundTrip
import Parley.Proofs.Template.Tree
import Parley.Proofs.Text.Blank
import Parley.Proofs.Text.Line
import Parley.Proofs.Text.Utf8
import Parley.Regex.Bracket
import Parley.Regex.Escape
import Parley.Regex.Footprint
import Parley.Regex.Reader
import Parley.Regex.Search
import Parley.Regex.Syntax
import Parley.Table
import Parley.Template.Basic
import Parley.Template.Chunk
import Parley.Text.Blank
import Parley.Text.ByteRange
import Parley.Text.Quoted
import Parley.Text.Utf8
import Parley.Unicode.Age
import Parley.Unicode.Break
import Parley.Unicode.CaseFold
import Parley.Unicode.Category
import Parley.Unicode.Classes
import Parley.Unicode.Property
import Parley.Unicode.RangeTable
import Parley.Unicode.Script
import Parley.Unicode.ScriptExtension
import Parley.Unicode.Trait
import Parley.Value
import Parley.Proofs.Template.Segment
import Parley.Proofs.Template.Placeholder
import Parley.Proofs.Template.Chunk
import Parley.Proofs.Template.Unresolved
import Parley.Proofs.Dispatch.Capture
import Parley.Proofs.Handler.Registration
import Parley.Proofs.Dispatch.Loose
import Parley.Proofs.Template.Supply
import Parley.Proofs.Bots.ChatCommand
import Parley.Proofs.Mail.Markup
import Parley.Proofs.Microblog.Mention
import Parley.Proofs.Microblog.MentionPattern
import Parley.Proofs.Bots.Hashtag
import Parley.Proofs.Mail.Body
import Parley.Proofs.Number.Decimal
import Parley.Proofs.Calendar.Date
import Parley.Proofs.Calendar.Instant
import Parley.Proofs.Value.Conversion
import Parley.Proofs.Imap.Quote
import Parley.Proofs.Imap.Wire
