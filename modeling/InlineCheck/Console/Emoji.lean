import InlineCheck.Text.Blank
import InlineCheck.Text.LowerCase

/-! # Emoji codes

A code between colons stands for an emoji.

* `codeTable` — the codes, by the length of their names.
* `replaceEmoji` — a text with its codes replaced.
-/

namespace InlineCheck.Console

/-! ## The codes -/

def codesTo8 : List (List (String × List Nat)) :=
  [[("a", [0x1F170]), ("b", [0x1F171]), ("m", [0x24C2]), ("o", [0x2B55]), ("v", [0x270C]),
      ("x", [0x274C])],
    [("+1", [0x1F44D]), ("-1", [0x1F44E]), ("ab", [0x1F18E]), ("cd", [0x1F4BF]), ("cl", [0x1F191]),
      ("id", [0x1F194]), ("ng", [0x1F196]), ("o2", [0x1F17E]), ("ok", [0x1F197]),
      ("om", [0x1F549]), ("on", [0x1F51B]), ("ox", [0x1F402]), ("sa", [0x1F202]), ("tm", [0x2122]),
      ("tv", [0x1F4FA]), ("up", [0x1F199]), ("vs", [0x1F19A]), ("wc", [0x1F6BE])],
    [("100", [0x1F4AF]), ("__1", [0x1F44E]), ("abc", [0x1F524]), ("ant", [0x1F41C]),
      ("art", [0x1F3A8]), ("atm", [0x1F3E7]), ("axe", [0x1FA93]), ("bat", [0x1F987]),
      ("bed", [0x1F6CF]), ("bee", [0x1F41D]), ("bow", [0x1F647]), ("boy", [0x1F466]),
      ("bug", [0x1F41B]), ("bus", [0x1F68C]), ("car", [0x1F697]), ("cat", [0x1F431]),
      ("cop", [0x1F46E]), ("cow", [0x1F42E]), ("cry", [0x1F622]), ("dna", [0x1F9EC]),
      ("dog", [0x1F436]), ("dvd", [0x1F4C0]), ("ear", [0x1F442]), ("egg", [0x1F373]),
      ("elf", [0x1F9DD]), ("end", [0x1F51A]), ("ewe", [0x1F411]), ("eye", [0x1F441]),
      ("fax", [0x1F4E0]), ("fog", [0x1F32B]), ("gem", [0x1F48E]), ("gun", [0x1F52B]),
      ("ice", [0x1F9CA]), ("imp", [0x1F47F]), ("joy", [0x1F602]), ("key", [0x1F511]),
      ("leg", [0x1F9B5]), ("leo", [0x264C]), ("mag", [0x1F50D]), ("man", [0x1F468]),
      ("new", [0x1F195]), ("one", [0x31, 0xFE0F, 0x20E3]), ("owl", [0x1F989]), ("pen", [0x1F58A]),
      ("pie", [0x1F967]), ("pig", [0x1F437]), ("ram", [0x1F40F]), ("rat", [0x1F400]),
      ("six", [0x36, 0xFE0F, 0x20E3]), ("ski", [0x1F3BF]), ("sob", [0x1F62D]), ("sos", [0x1F198]),
      ("sun", [0x2600]), ("tea", [0x1F375]), ("ten", [0x1F51F]), ("top", [0x1F51D]),
      ("two", [0x32, 0xFE0F, 0x20E3]), ("vhs", [0x1F4FC]), ("yen", [0x1F4B4]), ("yum", [0x1F60B]),
      ("zap", [0x26A1]), ("zzz", [0x1F4A4])],
    [("1234", [0x1F522]), ("abcd", [0x1F521]), ("baby", [0x1F476]), ("back", [0x1F519]),
      ("bald", [0x1F9B2]), ("bank", [0x1F3E6]), ("bath", [0x1F6C0]), ("bear", [0x1F43B]),
      ("beer", [0x1F37A]), ("bell", [0x1F514]), ("bike", [0x1F6B2]), ("bird", [0x1F426]),
      ("boar", [0x1F417]), ("boat", [0x26F5]), ("bomb", [0x1F4A3]), ("bone", [0x1F9B4]),
      ("book", [0x1F4D6]), ("boom", [0x1F4A5]), ("boot", [0x1F462]), ("bulb", [0x1F4A1]),
      ("cake", [0x1F370]), ("cat2", [0x1F408]), ("chad", [0x1F1F9, 0x1F1E9]), ("clap", [0x1F44F]),
      ("coat", [0x1F9E5]), ("cool", [0x1F192]), ("corn", [0x1F33D]), ("cow2", [0x1F404]),
      ("crab", [0x1F980]), ("cuba", [0x1F1E8, 0x1F1FA]), ("dart", [0x1F3AF]), ("dash", [0x1F4A8]),
      ("date", [0x1F4C5]), ("deer", [0x1F98C]), ("dog2", [0x1F415]), ("door", [0x1F6AA]),
      ("dove", [0x1F54A]), ("drum", [0x1F941]), ("duck", [0x1F986]), ("euro", [0x1F4B6]),
      ("eyes", [0x1F440]), ("feet", [0x1F43E]), ("fiji", [0x1F1EB, 0x1F1EF]), ("fire", [0x1F525]),
      ("fish", [0x1F41F]), ("fist", [0x270A]), ("five", [0x35, 0xFE0F, 0x20E3]),
      ("foot", [0x1F9B6]), ("four", [0x34, 0xFE0F, 0x20E3]), ("free", [0x1F193]),
      ("frog", [0x1F438]), ("gear", [0x2699]), ("gift", [0x1F381]), ("girl", [0x1F467]),
      ("goat", [0x1F410]), ("golf", [0x26F3]), ("grin", [0x1F601]), ("guam", [0x1F1EC, 0x1F1FA]),
      ("hand", [0x270B]), ("herb", [0x1F33F]), ("hole", [0x1F573]), ("iran", [0x1F1EE, 0x1F1F7]),
      ("iraq", [0x1F1EE, 0x1F1F6]), ("kiss", [0x1F48B]), ("kite", [0x1FA81]), ("koko", [0x1F201]),
      ("laos", [0x1F1F1, 0x1F1E6]), ("link", [0x1F517]), ("lips", [0x1F444]), ("lock", [0x1F512]),
      ("loop", [0x27BF]), ("mage", [0x1F9D9]), ("mali", [0x1F1F2, 0x1F1F1]), ("mask", [0x1F637]),
      ("mate", [0x1F9C9]), ("mega", [0x1F4E3]), ("memo", [0x1F4DD]), ("mens", [0x1F6B9]),
      ("moai", [0x1F5FF]), ("moon", [0x1F314]), ("mute", [0x1F507]),
      ("nine", [0x39, 0xFE0F, 0x20E3]), ("niue", [0x1F1F3, 0x1F1FA]), ("nose", [0x1F443]),
      ("oden", [0x1F362]), ("ogre", [0x1F479]), ("oman", [0x1F1F4, 0x1F1F2]), ("pear", [0x1F350]),
      ("peru", [0x1F1F5, 0x1F1EA]), ("pick", [0x26CF]), ("pig2", [0x1F416]), ("pill", [0x1F48A]),
      ("poop", [0x1F4A9]), ("pray", [0x1F64F]), ("rage", [0x1F621]), ("rice", [0x1F35A]),
      ("ring", [0x1F48D]), ("rose", [0x1F339]), ("sake", [0x1F376]), ("salt", [0x1F9C2]),
      ("sari", [0x1F97B]), ("seat", [0x1F4BA]), ("ship", [0x1F6A2]), ("shit", [0x1F4A9]),
      ("shoe", [0x1F45E]), ("skis", [0x1F3BF]), ("sled", [0x1F6F7]), ("soap", [0x1F9FC]),
      ("soon", [0x1F51C]), ("star", [0x2B50]), ("stew", [0x1F372]), ("swan", [0x1F9A2]),
      ("taco", [0x1F32E]), ("tada", [0x1F389]), ("taxi", [0x1F695]), ("tent", [0x26FA]),
      ("togo", [0x1F1F9, 0x1F1EC]), ("tram", [0x1F68A]), ("wave", [0x1F44B]), ("wink", [0x1F609]),
      ("wolf", [0x1F43A]), ("yarn", [0x1F9F6]), ("zero", [0x30, 0xFE0F, 0x20E3])],
    [("8ball", [0x1F3B1]), ("adult", [0x1F9D1]), ("alien", [0x1F47D]), ("angel", [0x1F47C]),
      ("anger", [0x1F4A2]), ("angry", [0x1F620]), ("apple", [0x1F34E]), ("aries", [0x2648]),
      ("aruba", [0x1F1E6, 0x1F1FC]), ("bacon", [0x1F953]), ("bagel", [0x1F96F]),
      ("banjo", [0x1FA95]), ("beers", [0x1F37B]), ("benin", [0x1F1E7, 0x1F1EF]),
      ("bento", [0x1F371]), ("blush", [0x1F60A]), ("books", [0x1F4DA]), ("brain", [0x1F9E0]),
      ("bread", [0x1F35E]), ("brick", [0x1F9F1]), ("broom", [0x1F9F9]), ("camel", [0x1F42B]),
      ("candy", [0x1F36C]), ("canoe", [0x1F6F6]), ("chair", [0x1FA91]), ("chart", [0x1F4B9]),
      ("child", [0x1F9D2]), ("chile", [0x1F1E8, 0x1F1F1]), ("china", [0x1F1E8, 0x1F1F3]),
      ("clamp", [0x1F5DC]), ("cloud", [0x2601]), ("clubs", [0x2663]), ("comet", [0x2604]),
      ("crown", [0x1F451]), ("cupid", [0x1F498]), ("curry", [0x1F35B]), ("dango", [0x1F361]),
      ("dizzy", [0x1F4AB]), ("dolls", [0x1F38E]), ("dress", [0x1F457]), ("eagle", [0x1F985]),
      ("egypt", [0x1F1EA, 0x1F1EC]), ("eight", [0x38, 0xFE0F, 0x20E3]), ("email", [0x2709]),
      ("fairy", [0x1F9DA]), ("ferry", [0x26F4]), ("flags", [0x1F38F]), ("foggy", [0x1F301]),
      ("fries", [0x1F35F]), ("gabon", [0x1F1EC, 0x1F1E6]), ("genie", [0x1F9DE]),
      ("ghana", [0x1F1EC, 0x1F1ED]), ("ghost", [0x1F47B]), ("guard", [0x1F482]),
      ("haiti", [0x1F1ED, 0x1F1F9]), ("heart", [0x2764]), ("hocho", [0x1F52A]),
      ("horse", [0x1F434]), ("hotel", [0x1F3E8]), ("house", [0x1F3E0]),
      ("india", [0x1F1EE, 0x1F1F3]), ("italy", [0x1F1EE, 0x1F1F9]), ("japan", [0x1F5FE]),
      ("jeans", [0x1F456]), ("joker", [0x1F0CF]), ("kaaba", [0x1F54B]),
      ("kenya", [0x1F1F0, 0x1F1EA]), ("knife", [0x1F52A]), ("koala", [0x1F428]),
      ("label", [0x1F3F7]), ("lemon", [0x1F34B]), ("libra", [0x264E]),
      ("libya", [0x1F1F1, 0x1F1FE]), ("llama", [0x1F999]), ("malta", [0x1F1F2, 0x1F1F9]),
      ("mango", [0x1F96D]), ("melon", [0x1F348]), ("metro", [0x1F687]), ("mouse", [0x1F42D]),
      ("mouth", [0x1F444]), ("moyai", [0x1F5FF]), ("nauru", [0x1F1F3, 0x1F1F7]),
      ("nepal", [0x1F1F3, 0x1F1F5]), ("niger", [0x1F1F3, 0x1F1EA]), ("notes", [0x1F3B6]),
      ("ocean", [0x1F30A]), ("onion", [0x1F9C5]), ("otter", [0x1F9A6]), ("pager", [0x1F4DF]),
      ("palau", [0x1F1F5, 0x1F1FC]), ("peach", [0x1F351]), ("phone", [0x260E]),
      ("pizza", [0x1F355]), ("pouch", [0x1F45D]), ("pound", [0x1F4B7]), ("punch", [0x1F44A]),
      ("purse", [0x1F45B]), ("qatar", [0x1F1F6, 0x1F1E6]), ("radio", [0x1F4FB]),
      ("ramen", [0x1F35C]), ("razor", [0x1FA92]), ("robot", [0x1F916]),
      ("samoa", [0x1F1FC, 0x1F1F8]), ("santa", [0x1F385]), ("scarf", [0x1F9E3]),
      ("seven", [0x37, 0xFE0F, 0x20E3]), ("shark", [0x1F988]), ("sheep", [0x1F411]),
      ("shell", [0x1F41A]), ("shirt", [0x1F455]), ("skier", [0x26F7]), ("skull", [0x1F480]),
      ("skunk", [0x1F9A8]), ("sloth", [0x1F9A5]), ("smile", [0x1F604]), ("smirk", [0x1F60F]),
      ("snail", [0x1F40C]), ("snake", [0x1F40D]), ("socks", [0x1F9E6]), ("sound", [0x1F509]),
      ("spain", [0x1F1EA, 0x1F1F8]), ("spoon", [0x1F944]), ("squid", [0x1F991]),
      ("star2", [0x1F31F]), ("stars", [0x1F320]), ("sudan", [0x1F1F8, 0x1F1E9]),
      ("sunny", [0x2600]), ("sushi", [0x1F363]), ("sweat", [0x1F613]),
      ("syria", [0x1F1F8, 0x1F1FE]), ("t-rex", [0x1F996]), ("three", [0x33, 0xFE0F, 0x20E3]),
      ("tiger", [0x1F42F]), ("tonga", [0x1F1F9, 0x1F1F4]), ("tooth", [0x1F9B7]),
      ("train", [0x1F68B]), ("truck", [0x1F69A]), ("tulip", [0x1F337]), ("u5272", [0x1F239]),
      ("u5408", [0x1F234]), ("u55b6", [0x1F23A]), ("u6307", [0x1F22F]), ("u6708", [0x1F237]),
      ("u6709", [0x1F236]), ("u6e80", [0x1F235]), ("u7121", [0x1F21A]), ("u7533", [0x1F238]),
      ("u7981", [0x1F232]), ("u7a7a", [0x1F233]), ("virgo", [0x264D]),
      ("wales", [0x1F3F4, 0xE0067, 0xE0062, 0xE0077, 0xE006C, 0xE0073, 0xE007F]),
      ("watch", [0x231A]), ("weary", [0x1F629]), ("whale", [0x1F433]), ("woman", [0x1F469]),
      ("yemen", [0x1F1FE, 0x1F1EA]), ("yo-yo", [0x1FA80]), ("zebra", [0x1F993])],
    [("abacus", [0x1F9EE]), ("accept", [0x1F251]), ("anchor", [0x2693]),
      ("angola", [0x1F1E6, 0x1F1F4]), ("badger", [0x1F9A1]), ("bamboo", [0x1F38D]),
      ("banana", [0x1F34C]), ("barber", [0x1F488]), ("basket", [0x1F9FA]), ("beetle", [0x1F41E]),
      ("belize", [0x1F1E7, 0x1F1FF]), ("bhutan", [0x1F1E7, 0x1F1F9]), ("bikini", [0x1F459]),
      ("brazil", [0x1F1E7, 0x1F1F7]), ("briefs", [0x1FA72]), ("brunei", [0x1F1E7, 0x1F1F3]),
      ("butter", [0x1F9C8]), ("cactus", [0x1F335]), ("camera", [0x1F4F7]),
      ("canada", [0x1F1E8, 0x1F1E6]), ("cancer", [0x264B]), ("candle", [0x1F56F]),
      ("carrot", [0x1F955]), ("castle", [0x1F3F0]), ("chains", [0x26D3]), ("church", [0x26EA]),
      ("cinema", [0x1F3A6]), ("clock1", [0x1F550]), ("clock2", [0x1F551]), ("clock3", [0x1F552]),
      ("clock4", [0x1F553]), ("clock5", [0x1F554]), ("clock6", [0x1F555]), ("clock7", [0x1F556]),
      ("clock8", [0x1F557]), ("clock9", [0x1F558]), ("coffee", [0x2615]), ("coffin", [0x26B0]),
      ("cookie", [0x1F36A]), ("couple", [0x1F46B]), ("crayon", [0x1F58D]),
      ("cyprus", [0x1F1E8, 0x1F1FE]), ("dagger", [0x1F5E1]), ("dancer", [0x1F483]),
      ("desert", [0x1F3DC]), ("dollar", [0x1F4B5]), ("dragon", [0x1F409]), ("e-mail", [0x1F4E7]),
      ("family", [0x1F46A]), ("france", [0x1F1EB, 0x1F1F7]), ("gambia", [0x1F1EC, 0x1F1F2]),
      ("garlic", [0x1F9C4]), ("gemini", [0x264A]), ("gloves", [0x1F9E4]), ("goblin", [0x1F47A]),
      ("golfer", [0x1F3CC]), ("grapes", [0x1F347]), ("greece", [0x1F1EC, 0x1F1F7]),
      ("guinea", [0x1F1EC, 0x1F1F3]), ("guitar", [0x1F3B8]), ("guyana", [0x1F1EC, 0x1F1FE]),
      ("hammer", [0x1F528]), ("hankey", [0x1F4A9]), ("hearts", [0x2665]), ("houses", [0x1F3D8]),
      ("hushed", [0x1F62F]), ("iphone", [0x1F4F1]), ("israel", [0x1F1EE, 0x1F1F1]),
      ("jersey", [0x1F1EF, 0x1F1EA]), ("jigsaw", [0x1F9E9]), ("jordan", [0x1F1EF, 0x1F1F4]),
      ("kimono", [0x1F458]), ("kosovo", [0x1F1FD, 0x1F1F0]), ("kuwait", [0x1F1F0, 0x1F1FC]),
      ("latvia", [0x1F1F1, 0x1F1FB]), ("leaves", [0x1F343]), ("ledger", [0x1F4D2]),
      ("lizard", [0x1F98E]), ("locked", [0x1F512]), ("magnet", [0x1F9F2]),
      ("malawi", [0x1F1F2, 0x1F1FC]), ("merman", [0x1F9DC, 0x200D, 0x2642, 0xFE0F]),
      ("mexico", [0x1F1F2, 0x1F1FD]), ("monaco", [0x1F1F2, 0x1F1E8]), ("monkey", [0x1F412]),
      ("mosque", [0x1F54C]), ("mouse2", [0x1F401]), ("muscle", [0x1F4AA]),
      ("norway", [0x1F1F3, 0x1F1F4]), ("office", [0x1F3E2]), ("oyster", [0x1F9AA]),
      ("panama", [0x1F1F5, 0x1F1E6]), ("parrot", [0x1F99C]), ("pencil", [0x1F4DD]),
      ("pisces", [0x2653]), ("pistol", [0x1F52B]), ("poland", [0x1F1F5, 0x1F1F1]),
      ("poodle", [0x1F429]), ("potato", [0x1F954]), ("prince", [0x1F934]), ("rabbit", [0x1F430]),
      ("repeat", [0x1F501]), ("rewind", [0x23EA]), ("ribbon", [0x1F380]), ("rocket", [0x1F680]),
      ("runner", [0x1F3C3]), ("russia", [0x1F1F7, 0x1F1FA]), ("rwanda", [0x1F1F7, 0x1F1FC]),
      ("sandal", [0x1F461]), ("scales", [0x2696]), ("school", [0x1F3EB]), ("scream", [0x1F631]),
      ("scroll", [0x1F4DC]), ("secret", [0x3299]), ("selfie", [0x1F933]),
      ("serbia", [0x1F1F7, 0x1F1F8]), ("shield", [0x1F6E1]), ("shorts", [0x1FA73]),
      ("shower", [0x1F6BF]), ("shrimp", [0x1F990]), ("sleepy", [0x1F62A]), ("smiley", [0x1F603]),
      ("soccer", [0x26BD]), ("spades", [0x2660]), ("spider", [0x1F577]), ("sponge", [0x1F9FD]),
      ("sunset", [0x1F307]), ("surfer", [0x1F3C4]), ("sweden", [0x1F1F8, 0x1F1EA]),
      ("taiwan", [0x1F1F9, 0x1F1FC]), ("taurus", [0x2649]), ("tennis", [0x1F3BE]),
      ("thread", [0x1F9F5]), ("ticket", [0x1F3AB]), ("tiger2", [0x1F405]), ("toilet", [0x1F6BD]),
      ("tomato", [0x1F345]), ("tongue", [0x1F445]), ("tophat", [0x1F3A9]), ("train2", [0x1F686]),
      ("trophy", [0x1F3C6]), ("tshirt", [0x1F455]), ("turkey", [0x1F983]), ("turtle", [0x1F422]),
      ("tuvalu", [0x1F1F9, 0x1F1FB]), ("uganda", [0x1F1FA, 0x1F1EC]), ("unlock", [0x1F513]),
      ("violin", [0x1F3BB]), ("waffle", [0x1F9C7]), ("whale2", [0x1F40B]), ("womens", [0x1F6BA]),
      ("wrench", [0x1F527]), ("zambia", [0x1F1FF, 0x1F1F2]), ("zombie", [0x1F9DF])],
    [("albania", [0x1F1E6, 0x1F1F1]), ("alembic", [0x2697]), ("algeria", [0x1F1E9, 0x1F1FF]),
      ("amphora", [0x1F3FA]), ("andorra", [0x1F1E6, 0x1F1E9]), ("armenia", [0x1F1E6, 0x1F1F2]),
      ("austria", [0x1F1E6, 0x1F1F9]), ("avocado", [0x1F951]), ("bahamas", [0x1F1E7, 0x1F1F8]),
      ("bahrain", [0x1F1E7, 0x1F1ED]), ("balloon", [0x1F388]), ("bathtub", [0x1F6C1]),
      ("battery", [0x1F50B]), ("belarus", [0x1F1E7, 0x1F1FE]), ("belgium", [0x1F1E7, 0x1F1EA]),
      ("bermuda", [0x1F1E7, 0x1F1F2]), ("bicycle", [0x1F6B2]), ("blossom", [0x1F33C]),
      ("bolivia", [0x1F1E7, 0x1F1F4]), ("bouquet", [0x1F490]), ("bowling", [0x1F3B3]),
      ("burrito", [0x1F32F]), ("burundi", [0x1F1E7, 0x1F1EE]), ("busstop", [0x1F68F]),
      ("calling", [0x1F4F2]), ("camping", [0x1F3D5]), ("chicken", [0x1F414]),
      ("clapper", [0x1F3AC]), ("clock10", [0x1F559]), ("clock11", [0x1F55A]),
      ("clock12", [0x1F55B]), ("coconut", [0x1F965]), ("comoros", [0x1F1F0, 0x1F1F2]),
      ("compass", [0x1F9ED]), ("cooking", [0x1F373]), ("cricket", [0x1F997]),
      ("croatia", [0x1F1ED, 0x1F1F7]), ("cupcake", [0x1F9C1]), ("curaçao", [0x1F1E8, 0x1F1FC]),
      ("custard", [0x1F36E]), ("customs", [0x1F6C3]), ("cyclone", [0x1F300]),
      ("czechia", [0x1F1E8, 0x1F1FF]), ("dancers", [0x1F46F]), ("denmark", [0x1F1E9, 0x1F1F0]),
      ("dolphin", [0x1F42C]), ("droplet", [0x1F4A7]), ("e__mail", [0x1F4E7]),
      ("ecuador", [0x1F1EA, 0x1F1E8]),
      ("england", [0x1F3F4, 0xE0067, 0xE0062, 0xE0065, 0xE006E, 0xE0067, 0xE007F]),
      ("eritrea", [0x1F1EA, 0x1F1F7]), ("estonia", [0x1F1EA, 0x1F1EA]), ("factory", [0x1F3ED]),
      ("falafel", [0x1F9C6]), ("fearful", [0x1F628]), ("finland", [0x1F1EB, 0x1F1EE]),
      ("flipper", [0x1F42C]), ("flushed", [0x1F633]), ("georgia", [0x1F1EC, 0x1F1EA]),
      ("germany", [0x1F1E9, 0x1F1EA]), ("giraffe", [0x1F992]), ("glasses", [0x1F453]),
      ("goggles", [0x1F97D]), ("gorilla", [0x1F98D]), ("grenada", [0x1F1EC, 0x1F1E9]),
      ("haircut", [0x1F487]), ("hamster", [0x1F439]), ("handbag", [0x1F45C]),
      ("hot_dog", [0x1F32D]), ("hungary", [0x1F1ED, 0x1F1FA]), ("iceland", [0x1F1EE, 0x1F1F8]),
      ("ireland", [0x1F1EE, 0x1F1EA]), ("jamaica", [0x1F1EF, 0x1F1F2]), ("joy_cat", [0x1F639]),
      ("kissing", [0x1F617]), ("lantern", [0x1F3EE]), ("lebanon", [0x1F1F1, 0x1F1E7]),
      ("leopard", [0x1F406]), ("lesotho", [0x1F1F1, 0x1F1F8]), ("liberia", [0x1F1F1, 0x1F1F7]),
      ("lobster", [0x1F99E]), ("luggage", [0x1F9F3]), ("mahjong", [0x1F004]),
      ("mailbox", [0x1F4EB]), ("man_elf", [0x1F9DD, 0x200D, 0x2642, 0xFE0F]),
      ("massage", [0x1F486]), ("mayotte", [0x1F1FE, 0x1F1F9]), ("menorah", [0x1F54E]),
      ("mermaid", [0x1F9DC, 0x200D, 0x2640, 0xFE0F]), ("microbe", [0x1F9A0]),
      ("minibus", [0x1F690]), ("moldova", [0x1F1F2, 0x1F1E9]), ("morocco", [0x1F1F2, 0x1F1E6]),
      ("namibia", [0x1F1F3, 0x1F1E6]), ("necktie", [0x1F454]), ("nigeria", [0x1F1F3, 0x1F1EC]),
      ("no_bell", [0x1F515]), ("no_good", [0x1F645]), ("octopus", [0x1F419]),
      ("ok_hand", [0x1F44C]), ("old_key", [0x1F5DD]), ("old_man", [0x1F474]),
      ("package", [0x1F4E6]), ("parking", [0x1F17F]), ("peacock", [0x1F99A]),
      ("peanuts", [0x1F95C]), ("pencil2", [0x270F]), ("penguin", [0x1F427]),
      ("pensive", [0x1F614]), ("popcorn", [0x1F37F]), ("postbox", [0x1F4EE]),
      ("pretzel", [0x1F968]), ("printer", [0x1F5A8]), ("pushpin", [0x1F4CC]),
      ("rabbit2", [0x1F407]), ("raccoon", [0x1F99D]), ("rainbow", [0x1F308]),
      ("receipt", [0x1F9FE]), ("recycle", [0x267B]), ("red_car", [0x1F697]), ("relaxed", [0x263A]),
      ("romania", [0x1F1F7, 0x1F1F4]), ("rooster", [0x1F413]), ("rosette", [0x1F3F5]),
      ("rowboat", [0x1F6A3]), ("running", [0x1F3C3]), ("réunion", [0x1F1F7, 0x1F1EA]),
      ("scorpio", [0x264F]), ("senegal", [0x1F1F8, 0x1F1F3]), ("smoking", [0x1F6AC]),
      ("snowman", [0x2603]), ("somalia", [0x1F1F8, 0x1F1F4]), ("sparkle", [0x2747]),
      ("speaker", [0x1F508]), ("stadium", [0x1F3DF]), ("station", [0x1F689]),
      ("sunrise", [0x1F305]), ("swimmer", [0x1F3CA]), ("symbols", [0x1F523]),
      ("syringe", [0x1F489]), ("t-shirt", [0x1F455]), ("tokelau", [0x1F1F9, 0x1F1F0]),
      ("toolbox", [0x1F9F0]), ("top_hat", [0x1F3A9]), ("tornado", [0x1F32A]),
      ("tractor", [0x1F69C]), ("trident", [0x1F531]), ("triumph", [0x1F624]),
      ("trumpet", [0x1F3BA]), ("tunisia", [0x1F1F9, 0x1F1F3]), ("ukraine", [0x1F1FA, 0x1F1E6]),
      ("uruguay", [0x1F1FA, 0x1F1FE]), ("vampire", [0x1F9DB]), ("vanuatu", [0x1F1FB, 0x1F1FA]),
      ("vietnam", [0x1F1FB, 0x1F1F3]), ("volcano", [0x1F30B]), ("walking", [0x1F6B6]),
      ("warning", [0x26A0]), ("wedding", [0x1F492]), ("worried", [0x1F61F])],
    [("airplane", [0x2708]), ("anguilla", [0x1F1E6, 0x1F1EE]), ("aquarius", [0x2652]),
      ("arrow_up", [0x2B06]), ("atm_sign", [0x1F3E7]), ("bald_man", [0x1F468, 0x200D, 0x1F9B2]),
      ("bangbang", [0x203C]), ("barbados", [0x1F1E7, 0x1F1E7]), ("baseball", [0x26BE]),
      ("beer_mug", [0x1F37A]), ("beginner", [0x1F530]), ("birthday", [0x1F382]),
      ("blowfish", [0x1F421]), ("blue_car", [0x1F699]), ("bookmark", [0x1F516]),
      ("botswana", [0x1F1E7, 0x1F1FC]), ("broccoli", [0x1F966]), ("bulgaria", [0x1F1E7, 0x1F1EC]),
      ("bus_stop", [0x1F68F]), ("calendar", [0x1F4C6]), ("cambodia", [0x1F1F0, 0x1F1ED]),
      ("cameroon", [0x1F1E8, 0x1F1F2]), ("cat_face", [0x1F431]), ("cherries", [0x1F352]),
      ("chestnut", [0x1F330]), ("chipmunk", [0x1F43F]), ("clock130", [0x1F55C]),
      ("clock230", [0x1F55D]), ("clock330", [0x1F55E]), ("clock430", [0x1F55F]),
      ("clock530", [0x1F560]), ("clock630", [0x1F561]), ("clock730", [0x1F562]),
      ("clock830", [0x1F563]), ("clock930", [0x1F564]), ("cocktail", [0x1F378]),
      ("colombia", [0x1F1E8, 0x1F1F4]), ("computer", [0x1F4BB]), ("confused", [0x1F615]),
      ("cow_face", [0x1F42E]), ("cucumber", [0x1F952]), ("diamonds", [0x2666]),
      ("djibouti", [0x1F1E9, 0x1F1EF]), ("dog_face", [0x1F436]), ("dominica", [0x1F1E9, 0x1F1F2]),
      ("doughnut", [0x1F369]), ("dumpling", [0x1F95F]), ("eggplant", [0x1F346]),
      ("elephant", [0x1F418]), ("envelope", [0x2709]), ("ethiopia", [0x1F1EA, 0x1F1F9]),
      ("flamingo", [0x1F9A9]), ("football", [0x1F3C8]), ("fountain", [0x26F2]),
      ("fox_face", [0x1F98A]), ("frowning", [0x1F626]), ("fuelpump", [0x26FD]),
      ("game_die", [0x1F3B2]), ("goal_net", [0x1F945]), ("grinning", [0x1F600]),
      ("guernsey", [0x1F1EC, 0x1F1EC]), ("hedgehog", [0x1F994]), ("hibiscus", [0x1F33A]),
      ("honduras", [0x1F1ED, 0x1F1F3]), ("honeybee", [0x1F41D]), ("hospital", [0x1F3E5]),
      ("hot_face", [0x1F975]), ("icecream", [0x1F366]), ("infinity", [0x267E]),
      ("innocent", [0x1F607]), ("joystick", [0x1F579]), ("kangaroo", [0x1F998]),
      ("keyboard", [0x2328]), ("keycap_#", [0x23, 0xFE0F, 0x20E3]),
      ("keycap_*", [0x2A, 0xFE0F, 0x20E3]), ("keycap_0", [0x30, 0xFE0F, 0x20E3]),
      ("keycap_1", [0x31, 0xFE0F, 0x20E3]), ("keycap_2", [0x32, 0xFE0F, 0x20E3]),
      ("keycap_3", [0x33, 0xFE0F, 0x20E3]), ("keycap_4", [0x34, 0xFE0F, 0x20E3]),
      ("keycap_5", [0x35, 0xFE0F, 0x20E3]), ("keycap_6", [0x36, 0xFE0F, 0x20E3]),
      ("keycap_7", [0x37, 0xFE0F, 0x20E3]), ("keycap_8", [0x38, 0xFE0F, 0x20E3]),
      ("keycap_9", [0x39, 0xFE0F, 0x20E3]), ("kiribati", [0x1F1F0, 0x1F1EE]),
      ("lab_coat", [0x1F97C]), ("lacrosse", [0x1F94D]), ("laughing", [0x1F606]),
      ("lipstick", [0x1F484]), ("lollipop", [0x1F36D]), ("malaysia", [0x1F1F2, 0x1F1FE]),
      ("maldives", [0x1F1F2, 0x1F1FB]), ("man_cook", [0x1F468, 0x200D, 0x1F373]),
      ("man_mage", [0x1F9D9, 0x200D, 0x2642, 0xFE0F]), ("minidisc", [0x1F4BD]),
      ("moneybag", [0x1F4B0]), ("mongolia", [0x1F1F2, 0x1F1F3]), ("monorail", [0x1F69D]),
      ("mosquito", [0x1F99F]), ("motorway", [0x1F6E3]), ("mountain", [0x26F0]),
      ("mushroom", [0x1F344]), ("new_moon", [0x1F311]), ("no_entry", [0x26D4]),
      ("no_mouth", [0x1F636]), ("notebook", [0x1F4D3]), ("oil_drum", [0x1F6E2]),
      ("ok_woman", [0x1F646]), ("p_button", [0x1F17F]), ("pakistan", [0x1F1F5, 0x1F1F0]),
      ("pancakes", [0x1F95E]), ("paraguay", [0x1F1F5, 0x1F1FE]), ("pig_face", [0x1F437]),
      ("pig_nose", [0x1F43D]), ("point_up", [0x261D]), ("portugal", [0x1F1F5, 0x1F1F9]),
      ("princess", [0x1F478]), ("question", [0x2753]), ("red_hair", [0x1F9B0]),
      ("relieved", [0x1F60C]), ("restroom", [0x1F6BB]), ("sailboat", [0x26F5]),
      ("sandwich", [0x1F96A]), ("sauropod", [0x1F995]), ("scissors", [0x2702]),
      ("scorpion", [0x1F982]), ("scorpius", [0x264F]),
      ("scotland", [0x1F3F4, 0xE0067, 0xE0062, 0xE0073, 0xE0063, 0xE0074, 0xE007F]),
      ("seedling", [0x1F331]), ("shamrock", [0x2618]), ("sleeping", [0x1F634]),
      ("slovakia", [0x1F1F8, 0x1F1F0]), ("slovenia", [0x1F1F8, 0x1F1EE]), ("softball", [0x1F94E]),
      ("sparkler", [0x1F387]), ("sparkles", [0x2728]), ("suriname", [0x1F1F8, 0x1F1F7]),
      ("tanzania", [0x1F1F9, 0x1F1FF]), ("thailand", [0x1F1F9, 0x1F1ED]), ("thumbsup", [0x1F44D]),
      ("tram_car", [0x1F68B]), ("umbrella", [0x2602]), ("unamused", [0x1F612]),
      ("underage", [0x1F51E]), ("unlocked", [0x1F513]), ("up_arrow", [0x2B06]),
      ("yin_yang", [0x262F]), ("zimbabwe", [0x1F1FF, 0x1F1FC])]]

def codesTo16 : List (List (String × List Nat)) :=
  [[("ambulance", [0x1F691]), ("anguished", [0x1F627]), ("argentina", [0x1F1E6, 0x1F1F7]),
      ("australia", [0x1F1E6, 0x1F1FA]), ("badminton", [0x1F3F8]), ("bar_chart", [0x1F4CA]),
      ("bear_face", [0x1F43B]), ("bento_box", [0x1F371]), ("bicyclist", [0x1F6B4]),
      ("biohazard", [0x2623]), ("black_nib", [0x2712]), ("blue_book", [0x1F4D8]),
      ("briefcase", [0x1F4BC]), ("butterfly", [0x1F98B]), ("capricorn", [0x2651]),
      ("cigarette", [0x1F6AC]), ("circled_m", [0x24C2]), ("cityscape", [0x1F3D9]),
      ("cl_button", [0x1F191]), ("clipboard", [0x1F4CB]), ("clock1030", [0x1F565]),
      ("clock1130", [0x1F566]), ("clock1230", [0x1F567]), ("club_suit", [0x2663]),
      ("cold_face", [0x1F976]), ("collision", [0x1F4A5]), ("copyright", [0xA9]),
      ("crocodile", [0x1F40A]), ("croissant", [0x1F950]), ("detective", [0x1F575]),
      ("diya_lamp", [0x1FA94]), ("end_arrow", [0x1F51A]), ("facepunch", [0x1F44A]),
      ("fireworks", [0x1F386]), ("fish_cake", [0x1F365]), ("flat_shoe", [0x1F97F]),
      ("frog_face", [0x1F438]), ("fuel_pump", [0x26FD]), ("full_moon", [0x1F315]),
      ("gem_stone", [0x1F48E]), ("gibraltar", [0x1F1EC, 0x1F1EE]),
      ("greenland", [0x1F1EC, 0x1F1F1]), ("grimacing", [0x1F62C]), ("guardsman", [0x1F482]),
      ("guatemala", [0x1F1EC, 0x1F1F9]), ("guide_dog", [0x1F9AE]), ("hamburger", [0x1F354]),
      ("handshake", [0x1F91D]), ("headphone", [0x1F3A7]), ("heartbeat", [0x1F493]),
      ("high_heel", [0x1F460]), ("honey_pot", [0x1F36F]), ("hourglass", [0x231B]),
      ("ice_cream", [0x1F368]), ("ice_skate", [0x26F8]), ("id_button", [0x1F194]),
      ("indonesia", [0x1F1EE, 0x1F1E9]), ("keycap_10", [0x1F51F]), ("kiss_mark", [0x1F48B]),
      ("lion_face", [0x1F981]), ("lithuania", [0x1F1F1, 0x1F1F9]),
      ("macedonia", [0x1F1F2, 0x1F1F0]), ("mag_right", [0x1F50E]), ("male_sign", [0x2642]),
      ("man_fairy", [0x1F9DA, 0x200D, 0x2642, 0xFE0F]),
      ("man_genie", [0x1F9DE, 0x200D, 0x2642, 0xFE0F]),
      ("man_guard", [0x1F482, 0x200D, 0x2642, 0xFE0F]),
      ("man_judge", [0x1F468, 0x200D, 0x2696, 0xFE0F]),
      ("man_pilot", [0x1F468, 0x200D, 0x2708, 0xFE0F]), ("mans_shoe", [0x1F45E]),
      ("mauritius", [0x1F1F2, 0x1F1FA]), ("megaphone", [0x1F4E3]), ("merperson", [0x1F9DC]),
      ("milky_way", [0x1F30C]), ("money_bag", [0x1F4B0]), ("moon_cake", [0x1F96E]),
      ("nail_care", [0x1F485]), ("nerd_face", [0x1F913]), ("newspaper", [0x1F4F0]),
      ("ng_button", [0x1F196]), ("nicaragua", [0x1F1F3, 0x1F1EE]), ("ok_button", [0x1F197]),
      ("old_woman", [0x1F475]), ("older_man", [0x1F474]), ("om_symbol", [0x1F549]),
      ("on!_arrow", [0x1F51B]), ("open_book", [0x1F4D6]), ("ophiuchus", [0x26CE]),
      ("orangutan", [0x1F9A7]), ("palm_tree", [0x1F334]), ("paperclip", [0x1F4CE]),
      ("persevere", [0x1F623]), ("pineapple", [0x1F34D]), ("ping_pong", [0x1F3D3]),
      ("racehorse", [0x1F40E]), ("red_apple", [0x1F34E]), ("red_heart", [0x2764]),
      ("rice_ball", [0x1F359]), ("satellite", [0x1F4E1]), ("satisfied", [0x1F606]),
      ("saxophone", [0x1F3B7]), ("shortcake", [0x1F370]), ("singapore", [0x1F1F8, 0x1F1EC]),
      ("smile_cat", [0x1F638]), ("smirk_cat", [0x1F63C]), ("snowflake", [0x2744]),
      ("spaghetti", [0x1F35D]), ("speedboat", [0x1F6A4]), ("sri_lanka", [0x1F1F1, 0x1F1F0]),
      ("st._lucia", [0x1F1F1, 0x1F1E8]), ("stop_sign", [0x1F6D1]), ("stopwatch", [0x23F1]),
      ("sunflower", [0x1F33B]), ("superhero", [0x1F9B8]), ("swaziland", [0x1F1F8, 0x1F1FF]),
      ("synagogue", [0x1F54D]), ("tangerine", [0x1F34A]), ("telephone", [0x260E]),
      ("telescope", [0x1F52D]), ("test_tube", [0x1F9EA]), ("thumbs_up", [0x1F44D]),
      ("top_arrow", [0x1F51D]), ("trackball", [0x1F5B2]), ("venezuela", [0x1F1FB, 0x1F1EA]),
      ("vs_button", [0x1F19A]), ("wavy_dash", [0x3030]), ("wind_face", [0x1F32C]),
      ("wolf_face", [0x1F43A]), ("woman_elf", [0x1F9DD, 0x200D, 0x2640, 0xFE0F]),
      ("world_map", [0x1F5FA]), ("zany_face", [0x1F92A])],
    [("angry_face", [0x1F620]), ("antarctica", [0x1F1E6, 0x1F1F6]), ("arrow_down", [0x2B07]),
      ("arrow_left", [0x2B05]), ("astonished", [0x1F632]), ("automobile", [0x1F697]),
      ("azerbaijan", [0x1F1E6, 0x1F1FF]), ("baby_angel", [0x1F47C]), ("baby_chick", [0x1F424]),
      ("back_arrow", [0x1F519]), ("bald_woman", [0x1F469, 0x200D, 0x1F9B2]),
      ("bangladesh", [0x1F1E7, 0x1F1E9]), ("basketball", [0x1F3C0]), ("billed_cap", [0x1F9E2]),
      ("black_flag", [0x1F3F4]), ("blue_heart", [0x1F499]), ("cape_verde", [0x1F1E8, 0x1F1FB]),
      ("card_index", [0x1F4C7]), ("chess_pawn", [0x265F]), ("chopsticks", [0x1F962]),
      ("clown_face", [0x1F921]), ("clutch_bag", [0x1F45D]), ("cold_sweat", [0x1F630]),
      ("confounded", [0x1F616]), ("costa_rica", [0x1F1E8, 0x1F1F7]), ("couplekiss", [0x1F48F]),
      ("cross_mark", [0x274C]), ("curly_hair", [0x1F9B1]), ("curly_loop", [0x27B0]),
      ("curry_rice", [0x1F35B]), ("dim_button", [0x1F505]), ("direct_hit", [0x1F3AF]),
      ("dizzy_face", [0x1F635]), ("down_arrow", [0x2B07]), ("earth_asia", [0x1F30F]),
      ("eyeglasses", [0x1F453]), ("flashlight", [0x1F526]), ("footprints", [0x1F463]),
      ("gift_heart", [0x1F49D]), ("green_book", [0x1F4D7]), ("guadeloupe", [0x1F1EC, 0x1F1F5]),
      ("headphones", [0x1F3A7]), ("heart_eyes", [0x1F60D]), ("heart_suit", [0x2665]),
      ("heartpulse", [0x1F497]), ("helicopter", [0x1F681]), ("horse_face", [0x1F434]),
      ("hot_pepper", [0x1F336]), ("hotsprings", [0x2668]), ("ice_hockey", [0x1F3D2]),
      ("inbox_tray", [0x1F4E5]), ("kazakhstan", [0x1F1F0, 0x1F1FF]), ("kiwi_fruit", [0x1F95D]),
      ("kyrgyzstan", [0x1F1F0, 0x1F1EC]), ("left_arrow", [0x2B05]), ("light_bulb", [0x1F4A1]),
      ("light_rail", [0x1F688]), ("locomotive", [0x1F682]), ("loud_sound", [0x1F50A]),
      ("love_hotel", [0x1F3E9]), ("luxembourg", [0x1F1F1, 0x1F1FA]), ("lying_face", [0x1F925]),
      ("madagascar", [0x1F1F2, 0x1F1EC]), ("man_artist", [0x1F468, 0x200D, 0x1F3A8]),
      ("man_biking", [0x1F6B4, 0x200D, 0x2642, 0xFE0F]),
      ("man_bowing", [0x1F647, 0x200D, 0x2642, 0xFE0F]),
      ("man_farmer", [0x1F468, 0x200D, 0x1F33E]), ("man_singer", [0x1F468, 0x200D, 0x1F3A4]),
      ("man_zombie", [0x1F9DF, 0x200D, 0x2642, 0xFE0F]), ("man’s_shoe", [0x1F45E]),
      ("maple_leaf", [0x1F341]), ("martinique", [0x1F1F2, 0x1F1F6]),
      ("mauritania", [0x1F1F2, 0x1F1F7]), ("men’s_room", [0x1F6B9]),
      ("micronesia", [0x1F1EB, 0x1F1F2]), ("microphone", [0x1F3A4]), ("microscope", [0x1F52C]),
      ("montenegro", [0x1F1F2, 0x1F1EA]), ("montserrat", [0x1F1F2, 0x1F1F8]),
      ("motor_boat", [0x1F6E5]), ("motorcycle", [0x1F3CD]), ("mount_fuji", [0x1F5FB]),
      ("mouse_face", [0x1F42D]), ("mozambique", [0x1F1F2, 0x1F1FF]), ("mrs._claus", [0x1F936]),
      ("name_badge", [0x1F4DB]), ("new_button", [0x1F195]), ("no_smoking", [0x1F6AD]),
      ("one-thirty", [0x1F55C]), ("open_hands", [0x1F450]), ("open_mouth", [0x1F62E]),
      ("paintbrush", [0x1F58C]), ("panda_face", [0x1F43C]), ("paw_prints", [0x1F43E]),
      ("petri_dish", [0x1F9EB]), ("point_down", [0x1F447]), ("point_left", [0x1F448]),
      ("point_up_2", [0x1F446]), ("police_car", [0x1F693]), ("prohibited", [0x1F6AB]),
      ("racing_car", [0x1F3CE]), ("red_circle", [0x1F534]), ("red_square", [0x1F7E5]),
      ("registered", [0xAE]), ("repeat_one", [0x1F502]), ("rhinoceros", [0x1F98F]),
      ("rice_scene", [0x1F391]), ("robot_face", [0x1F916]), ("safety_pin", [0x1F9F7]),
      ("san_marino", [0x1F1F8, 0x1F1F2]), ("scream_cat", [0x1F640]),
      ("seychelles", [0x1F1F8, 0x1F1E8]), ("shaved_ice", [0x1F367]), ("six-thirty", [0x1F561]),
      ("skateboard", [0x1F6F9]), ("smiley_cat", [0x1F63A]), ("soon_arrow", [0x1F51C]),
      ("sos_button", [0x1F198]), ("spade_suit", [0x2660]), ("spider_web", [0x1F578]),
      ("st._helena", [0x1F1F8, 0x1F1ED]), ("st._martin", [0x1F1F2, 0x1F1EB]),
      ("strawberry", [0x1F353]), ("sunglasses", [0x1F60E]), ("tajikistan", [0x1F1F9, 0x1F1EF]),
      ("teddy_bear", [0x1F9F8]), ("television", [0x1F4FA]), ("ten-thirty", [0x1F565]),
      ("thumbsdown", [0x1F44E]), ("tiger_face", [0x1F42F]), ("tired_face", [0x1F62B]),
      ("trade_mark", [0x2122]), ("trolleybus", [0x1F68E]), ("two-thirty", [0x1F55D]),
      ("two_hearts", [0x1F495]), ("up!_button", [0x1F199]), ("uzbekistan", [0x1F1FA, 0x1F1FF]),
      ("video_game", [0x1F3AE]), ("volleyball", [0x1F3D0]), ("water_wave", [0x1F30A]),
      ("watermelon", [0x1F349]), ("weary_face", [0x1F629]), ("wheelchair", [0x267F]),
      ("white_flag", [0x1F3F3]), ("white_hair", [0x1F9B3]), ("wind_chime", [0x1F390]),
      ("wine_glass", [0x1F377]), ("woman_cook", [0x1F469, 0x200D, 0x1F373]),
      ("woman_mage", [0x1F9D9, 0x200D, 0x2640, 0xFE0F]), ("womans_hat", [0x1F452]),
      ("woozy_face", [0x1F974])],
    [("afghanistan", [0x1F1E6, 0x1F1EB]), ("alarm_clock", [0x23F0]), ("arrow_right", [0x27A1]),
      ("atom_symbol", [0x269B]), ("baby_bottle", [0x1F37C]), ("baby_symbol", [0x1F6BC]),
      ("barber_pole", [0x1F488]), ("black_heart", [0x1F5A4]), ("black_joker", [0x1F0CF]),
      ("blue_circle", [0x1F535]), ("blue_square", [0x1F7E6]), ("brown_heart", [0x1F90E]),
      ("canned_food", [0x1F96B]), ("circus_tent", [0x1F3AA]), ("city_sunset", [0x1F306]),
      ("closed_book", [0x1F4D5]), ("compression", [0x1F5DC]), ("cooked_rice", [0x1F35A]),
      ("cool_button", [0x1F192]), ("credit_card", [0x1F4B3]), ("crying_face", [0x1F622]),
      ("cut_of_meat", [0x1F969]), ("deaf_person", [0x1F9CF]), ("diving_mask", [0x1F93F]),
      ("dragon_face", [0x1F432]), ("ear_of_corn", [0x1F33D]), ("ear_of_rice", [0x1F33E]),
      ("el_salvador", [0x1F1F8, 0x1F1FB]), ("exclamation", [0x2757]), ("fallen_leaf", [0x1F342]),
      ("fax_machine", [0x1F4E0]), ("female_sign", [0x2640]), ("file_folder", [0x1F4C1]),
      ("film_frames", [0x1F39E]), ("fire_engine", [0x1F692]), ("firecracker", [0x1F9E8]),
      ("five-thirty", [0x1F560]), ("floppy_disk", [0x1F4BE]), ("flying_disc", [0x1F94F]),
      ("four-thirty", [0x1F55F]), ("free_button", [0x1F193]), ("funeral_urn", [0x26B1]),
      ("green_apple", [0x1F34F]), ("green_heart", [0x1F49A]), ("green_salad", [0x1F957]),
      ("helm_symbol", [0x2388]), ("hiking_boot", [0x1F97E]), ("hot_springs", [0x2668]),
      ("hushed_face", [0x1F62F]), ("information", [0x2139]), ("interrobang", [0x2049]),
      ("isle_of_man", [0x1F1EE, 0x1F1F2]), ("kissing_cat", [0x1F63D]), ("lady_beetle", [0x1F41E]),
      ("latin_cross", [0x271D]), ("leafy_green", [0x1F96C]), ("loudspeaker", [0x1F4E2]),
      ("love_letter", [0x1F48C]), ("man_dancing", [0x1F57A]),
      ("man_golfing", [0x1F3CC, 0xFE0F, 0x200D, 0x2642, 0xFE0F]),
      ("man_pouting", [0x1F64E, 0x200D, 0x2642, 0xFE0F]),
      ("man_running", [0x1F3C3, 0x200D, 0x2642, 0xFE0F]),
      ("man_student", [0x1F468, 0x200D, 0x1F393]),
      ("man_surfing", [0x1F3C4, 0x200D, 0x2642, 0xFE0F]),
      ("man_teacher", [0x1F468, 0x200D, 0x1F3EB]),
      ("man_vampire", [0x1F9DB, 0x200D, 0x2642, 0xFE0F]),
      ("man_walking", [0x1F6B6, 0x200D, 0x2642, 0xFE0F]), ("monkey_face", [0x1F435]),
      ("nail_polish", [0x1F485]), ("netherlands", [0x1F1F3, 0x1F1F1]),
      ("new_zealand", [0x1F1F3, 0x1F1FF]), ("nine-thirty", [0x1F564]), ("no_bicycles", [0x1F6B3]),
      ("north_korea", [0x1F1F0, 0x1F1F5]), ("older_adult", [0x1F9D3]), ("older_woman", [0x1F475]),
      ("one_o’clock", [0x1F550]), ("orange_book", [0x1F4D9]), ("outbox_tray", [0x1F4E4]),
      ("philippines", [0x1F1F5, 0x1F1ED]), ("pile_of_poo", [0x1F4A9]),
      ("pirate_flag", [0x1F3F4, 0x200D, 0x2620, 0xFE0F]), ("play_button", [0x25B6]),
      ("point_right", [0x1F449]), ("pool_8_ball", [0x1F3B1]), ("post_office", [0x1F3E3]),
      ("postal_horn", [0x1F4EF]), ("pot_of_food", [0x1F372]), ("poultry_leg", [0x1F357]),
      ("pouting_cat", [0x1F63E]), ("puerto_rico", [0x1F1F5, 0x1F1F7]), ("rabbit_face", [0x1F430]),
      ("radioactive", [0x2622]), ("railway_car", [0x1F683]), ("raised_fist", [0x270A]),
      ("raised_hand", [0x270B]), ("right_arrow", [0x27A1]), ("safety_vest", [0x1F9BA]),
      ("sagittarius", [0x2650]), ("santa_claus", [0x1F385]), ("see_no_evil", [0x1F648]),
      ("service_dog", [0x1F415, 0x200D, 0x1F9BA]), ("six_o’clock", [0x1F555]),
      ("sleepy_face", [0x1F62A]), ("smiling_imp", [0x1F608]), ("snowboarder", [0x1F3C2]),
      ("soccer_ball", [0x26BD]), ("south_korea", [0x1F1F0, 0x1F1F7]),
      ("south_sudan", [0x1F1F8, 0x1F1F8]), ("star-struck", [0x1F929]), ("stethoscope", [0x1FA7A]),
      ("stop_button", [0x23F9]), ("sweat_drops", [0x1F4A6]), ("sweat_smile", [0x1F605]),
      ("switzerland", [0x1F1E8, 0x1F1ED]), ("takeout_box", [0x1F961]), ("ten_o’clock", [0x1F559]),
      ("thermometer", [0x1F321]), ("thumbs_down", [0x1F44E]), ("timer_clock", [0x23F2]),
      ("timor-leste", [0x1F1F9, 0x1F1F1]), ("tokyo_tower", [0x1F5FC]), ("two_o’clock", [0x1F551]),
      ("wastebasket", [0x1F5D1]), ("waving_hand", [0x1F44B]), ("white_heart", [0x1F90D]),
      ("woman_fairy", [0x1F9DA, 0x200D, 0x2640, 0xFE0F]),
      ("woman_genie", [0x1F9DE, 0x200D, 0x2640, 0xFE0F]),
      ("woman_guard", [0x1F482, 0x200D, 0x2640, 0xFE0F]),
      ("woman_judge", [0x1F469, 0x200D, 0x2696, 0xFE0F]),
      ("woman_pilot", [0x1F469, 0x200D, 0x2708, 0xFE0F]), ("woman’s_hat", [0x1F452])],
    [("anger_symbol", [0x1F4A2]), ("antenna_bars", [0x1F4F6]), ("ballet_shoes", [0x1FA70]),
      ("bellhop_bell", [0x1F6CE]), ("beverage_box", [0x1F9C3]), ("black_circle", [0x26AB]),
      ("boxing_glove", [0x1F94A]), ("broken_heart", [0x1F494]), ("brown_circle", [0x1F7E4]),
      ("brown_square", [0x1F7EB]), ("bullet_train", [0x1F685]),
      ("burkina_faso", [0x1F1E7, 0x1F1EB]), ("call_me_hand", [0x1F919]),
      ("capital_abcd", [0x1F520]), ("cheese_wedge", [0x1F9C0]), ("city_sunrise", [0x1F307]),
      ("construction", [0x1F6A7]), ("cook_islands", [0x1F1E8, 0x1F1F0]),
      ("cricket_game", [0x1F3CF]), ("crystal_ball", [0x1F52E]), ("dagger_knife", [0x1F5E1]),
      ("dashing_away", [0x1F4A8]), ("diamond_suit", [0x2666]),
      ("diego_garcia", [0x1F1E9, 0x1F1EC]), ("disappointed", [0x1F61E]),
      ("earth_africa", [0x1F30D]), ("eight-thirty", [0x1F563]), ("eject_button", [0x23CF]),
      ("eject_symbol", [0x23CF]), ("fast_forward", [0x23E9]), ("fearful_face", [0x1F628]),
      ("ferris_wheel", [0x1F3A1]), ("field_hockey", [0x1F3D1]), ("file_cabinet", [0x1F5C4]),
      ("fishing_pole", [0x1F3A3]), ("five_o’clock", [0x1F554]), ("flag_in_hole", [0x26F3]),
      ("fleur-de-lis", [0x269C]), ("flushed_face", [0x1F633]), ("folded_hands", [0x1F64F]),
      ("fountain_pen", [0x1F58B]), ("four_o’clock", [0x1F553]), ("french_fries", [0x1F35F]),
      ("fried_shrimp", [0x1F364]), ("glowing_star", [0x1F31F]), ("green_circle", [0x1F7E2]),
      ("green_square", [0x1F7E9]), ("hamster_face", [0x1F439]), ("hear_no_evil", [0x1F649]),
      ("high_voltage", [0x26A1]), ("hindu_temple", [0x1F6D5]), ("hippopotamus", [0x1F99B]),
      ("horse_racing", [0x1F3C7]), ("hot_beverage", [0x2615]), ("hugging_face", [0x1F917]),
      ("kick_scooter", [0x1F6F4]),
      ("kiss_man_man", [0x1F468, 0x200D, 0x2764, 0xFE0F, 0x200D, 0x1F48B, 0x200D, 0x1F468]),
      ("kissing_face", [0x1F617]), ("left_luggage", [0x1F6C5]), ("level_slider", [0x1F39A]),
      ("man_climbing", [0x1F9D7, 0x200D, 0x2642, 0xFE0F]),
      ("man_frowning", [0x1F64D, 0x200D, 0x2642, 0xFE0F]),
      ("man_juggling", [0x1F939, 0x200D, 0x2642, 0xFE0F]),
      ("man_mechanic", [0x1F468, 0x200D, 0x1F527]),
      ("man_swimming", [0x1F3CA, 0x200D, 0x2642, 0xFE0F]), ("map_of_japan", [0x1F5FE]),
      ("meat_on_bone", [0x1F356]), ("mobile_phone", [0x1F4F1]), ("mortar_board", [0x1F393]),
      ("movie_camera", [0x1F3A5]), ("musical_note", [0x1F3B5]), ("nazar_amulet", [0x1F9FF]),
      ("neutral_face", [0x1F610]), ("nine_o’clock", [0x1F558]), ("no_littering", [0x1F6AF]),
      ("nut_and_bolt", [0x1F529]), ("oncoming_bus", [0x1F68D]), ("optical_disk", [0x1F4BF]),
      ("orange_heart", [0x1F9E1]), ("partly_sunny", [0x26C5]), ("party_popper", [0x1F389]),
      ("pause_button", [0x23F8]), ("peace_symbol", [0x262E]), ("pensive_face", [0x1F614]),
      ("pouting_face", [0x1F621]), ("prayer_beads", [0x1F4FF]), ("probing_cane", [0x1F9AF]),
      ("purple_heart", [0x1F49C]), ("radio_button", [0x1F518]),
      ("rainbow_flag", [0x1F3F3, 0xFE0F, 0x200D, 0x1F308]), ("raised_hands", [0x1F64C]),
      ("raising_hand", [0x1F64B]), ("red_envelope", [0x1F9E7]), ("rice_cracker", [0x1F358]),
      ("running_shoe", [0x1F45F]), ("saudi_arabia", [0x1F1F8, 0x1F1E6]),
      ("seven-thirty", [0x1F562]), ("sierra_leone", [0x1F1F8, 0x1F1F1]),
      ("sint_maarten", [0x1F1F8, 0x1F1FD]), ("slot_machine", [0x1F3B0]),
      ("smiling_face", [0x263A]), ("south_africa", [0x1F1FF, 0x1F1E6]),
      ("spiral_shell", [0x1F41A]), ("sports_medal", [0x1F3C5]), ("supervillain", [0x1F9B9]),
      ("sweet_potato", [0x1F360]), ("three-thirty", [0x1F55E]),
      ("turkmenistan", [0x1F1F9, 0x1F1F2]), ("unicorn_face", [0x1F984]),
      ("vatican_city", [0x1F1FB, 0x1F1E6]), ("victory_hand", [0x270C]),
      ("video_camera", [0x1F4F9]), ("water_closet", [0x1F6BE]), ("white_circle", [0x26AA]),
      ("white_flower", [0x1F4AE]), ("winking_face", [0x1F609]),
      ("woman_artist", [0x1F469, 0x200D, 0x1F3A8]),
      ("woman_biking", [0x1F6B4, 0x200D, 0x2640, 0xFE0F]),
      ("woman_bowing", [0x1F647, 0x200D, 0x2640, 0xFE0F]),
      ("woman_farmer", [0x1F469, 0x200D, 0x1F33E]), ("woman_singer", [0x1F469, 0x200D, 0x1F3A4]),
      ("woman_zombie", [0x1F9DF, 0x200D, 0x2640, 0xFE0F]), ("woman’s_boot", [0x1F462]),
      ("women’s_room", [0x1F6BA]), ("worried_face", [0x1F61F]), ("wrapped_gift", [0x1F381]),
      ("writing_hand", [0x270D]), ("yawning_face", [0x1F971]), ("yellow_heart", [0x1F49B]),
      ("yen_banknote", [0x1F4B4])],
    [("alien_monster", [0x1F47E]), ("arrow_forward", [0x25B6]), ("arrow_up_down", [0x2195]),
      ("athletic_shoe", [0x1F45F]), ("auto_rickshaw", [0x1F6FA]), ("baggage_claim", [0x1F6C4]),
      ("balance_scale", [0x2696]), ("beating_heart", [0x1F493]), ("birthday_cake", [0x1F382]),
      ("bookmark_tabs", [0x1F4D1]), ("bouvet_island", [0x1F1E7, 0x1F1FB]),
      ("bow_and_arrow", [0x1F3F9]), ("bright_button", [0x1F506]), ("card_file_box", [0x1F5C3]),
      ("carp_streamer", [0x1F38F]), ("chocolate_bar", [0x1F36B]), ("clapper_board", [0x1F3AC]),
      ("computer_disk", [0x1F4BD]), ("confetti_ball", [0x1F38A]), ("confused_face", [0x1F615]),
      ("control_knobs", [0x1F39B]), ("crescent_moon", [0x1F319]), ("crossed_flags", [0x1F38C]),
      ("curling_stone", [0x1F94C]), ("côte_d’ivoire", [0x1F1E8, 0x1F1EE]),
      ("desert_island", [0x1F3DD]), ("do_not_litter", [0x1F6AF]), ("dove_of_peace", [0x1F54A]),
      ("drooling_face", [0x1F924]), ("drop_of_blood", [0x1FA78]), ("eight_o’clock", [0x1F557]),
      ("electric_plug", [0x1F50C]), ("eleven-thirty", [0x1F566]), ("euro_banknote", [0x1F4B6]),
      ("face_vomiting", [0x1F92E]), ("faroe_islands", [0x1F1EB, 0x1F1F4]),
      ("flag_for_chad", [0x1F1F9, 0x1F1E9]), ("flag_for_cuba", [0x1F1E8, 0x1F1FA]),
      ("flag_for_fiji", [0x1F1EB, 0x1F1EF]), ("flag_for_guam", [0x1F1EC, 0x1F1FA]),
      ("flag_for_iran", [0x1F1EE, 0x1F1F7]), ("flag_for_iraq", [0x1F1EE, 0x1F1F6]),
      ("flag_for_laos", [0x1F1F1, 0x1F1E6]), ("flag_for_mali", [0x1F1F2, 0x1F1F1]),
      ("flag_for_niue", [0x1F1F3, 0x1F1FA]), ("flag_for_oman", [0x1F1F4, 0x1F1F2]),
      ("flag_for_peru", [0x1F1F5, 0x1F1EA]), ("flag_for_togo", [0x1F1F9, 0x1F1EC]),
      ("flexed_biceps", [0x1F4AA]), ("flying_saucer", [0x1F6F8]),
      ("french_guiana", [0x1F1EC, 0x1F1EB]), ("frowning_face", [0x2639]),
      ("glass_of_milk", [0x1F95B]), ("grey_question", [0x2754]), ("grinning_face", [0x1F600]),
      ("growing_heart", [0x1F497]), ("guinea-bissau", [0x1F1EC, 0x1F1FC]),
      ("hatched_chick", [0x1F425]), ("input_numbers", [0x1F522]), ("input_symbols", [0x1F523]),
      ("japanese_ogre", [0x1F479]), ("kissing_heart", [0x1F618]), ("kitchen_knife", [0x1F52A]),
      ("liechtenstein", [0x1F1F1, 0x1F1EE]), ("lotion_bottle", [0x1F9F4]),
      ("man_astronaut", [0x1F468, 0x200D, 0x1F680]),
      ("man_detective", [0x1F575, 0xFE0F, 0x200D, 0x2642, 0xFE0F]), ("man_in_tuxedo", [0x1F935]),
      ("man_scientist", [0x1F468, 0x200D, 0x1F52C]),
      ("man_shrugging", [0x1F937, 0x200D, 0x2642, 0xFE0F]),
      ("men_wrestling", [0x1F93C, 0x200D, 0x2642, 0xFE0F]), ("middle_finger", [0x1F595]),
      ("motor_scooter", [0x1F6F5]), ("musical_notes", [0x1F3B6]), ("musical_score", [0x1F3BC]),
      ("muted_speaker", [0x1F507]), ("national_park", [0x1F3DE]),
      ("new_caledonia", [0x1F1F3, 0x1F1E8]), ("new_moon_face", [0x1F31A]),
      ("no_entry_sign", [0x1F6AB]), ("oncoming_fist", [0x1F44A]), ("oncoming_taxi", [0x1F696]),
      ("orange_circle", [0x1F7E0]), ("orange_square", [0x1F7E7]), ("partying_face", [0x1F973]),
      ("person_biking", [0x1F6B4]), ("person_bowing", [0x1F647]), ("person_in_bed", [0x1F6CC]),
      ("pinching_hand", [0x1F90F]), ("pleading_face", [0x1F97A]), ("potable_water", [0x1F6B0]),
      ("purple_circle", [0x1F7E3]), ("purple_square", [0x1F7EA]), ("question_mark", [0x2753]),
      ("railway_track", [0x1F6E4]), ("raising_hands", [0x1F64C]), ("record_button", [0x23FA]),
      ("relieved_face", [0x1F60C]), ("repeat_button", [0x1F501]), ("ringed_planet", [0x1FA90]),
      ("roll_of_paper", [0x1F9FB]), ("round_pushpin", [0x1F4CD]), ("running_shirt", [0x1F3BD]),
      ("seven_o’clock", [0x1F556]), ("sheaf_of_rice", [0x1F33E]), ("shinto_shrine", [0x26E9]),
      ("shooting_star", [0x1F320]), ("shopping_bags", [0x1F6CD]), ("shopping_cart", [0x1F6D2]),
      ("shushing_face", [0x1F92B]), ("sleeping_face", [0x1F634]), ("sleuth_or_spy", [0x1F575]),
      ("smirking_face", [0x1F60F]), ("sneezing_face", [0x1F927]), ("space_invader", [0x1F47E]),
      ("speak_no_evil", [0x1F64A]), ("speaking_head", [0x1F5E3]), ("star_of_david", [0x2721]),
      ("steaming_bowl", [0x1F35C]), ("sun_with_face", [0x1F31E]), ("tanabata_tree", [0x1F38B]),
      ("thinking_face", [0x1F914]), ("three_o’clock", [0x1F552]), ("traffic_light", [0x1F6A5]),
      ("tropical_fish", [0x1F420]), ("tumbler_glass", [0x1F943]), ("twelve-thirty", [0x1F567]),
      ("unamused_face", [0x1F612]), ("united_states", [0x1F1FA, 0x1F1F8]),
      ("up-down_arrow", [0x2195]), ("up-left_arrow", [0x2196]), ("videocassette", [0x1F4FC]),
      ("vulcan_salute", [0x1F596]), ("water_buffalo", [0x1F403]), ("weight_lifter", [0x1F3CB]),
      ("wilted_flower", [0x1F940]), ("woman_dancing", [0x1F483]),
      ("woman_golfing", [0x1F3CC, 0xFE0F, 0x200D, 0x2640, 0xFE0F]),
      ("woman_pouting", [0x1F64E, 0x200D, 0x2640, 0xFE0F]),
      ("woman_running", [0x1F3C3, 0x200D, 0x2640, 0xFE0F]),
      ("woman_student", [0x1F469, 0x200D, 0x1F393]),
      ("woman_surfing", [0x1F3C4, 0x200D, 0x2640, 0xFE0F]),
      ("woman_teacher", [0x1F469, 0x200D, 0x1F3EB]),
      ("woman_vampire", [0x1F9DB, 0x200D, 0x2640, 0xFE0F]),
      ("woman_walking", [0x1F6B6, 0x200D, 0x2640, 0xFE0F]), ("yellow_circle", [0x1F7E1]),
      ("yellow_square", [0x1F7E8]), ("åland_islands", [0x1F1E6, 0x1F1FD])],
    [("aerial_tramway", [0x1F6A1]), ("american_samoa", [0x1F1E6, 0x1F1F8]),
      ("anguished_face", [0x1F627]), ("arrow_backward", [0x25C0]), ("arrow_up_small", [0x1F53C]),
      ("artist_palette", [0x1F3A8]), ("baguette_bread", [0x1F956]), ("bearded_person", [0x1F9D4]),
      ("biohazard_sign", [0x2623]), ("breast-feeding", [0x1F931]),
      ("canary_islands", [0x1F1EE, 0x1F1E8]), ("carousel_horse", [0x1F3A0]),
      ("cayman_islands", [0x1F1F0, 0x1F1FE]), ("checkered_flag", [0x1F3C1]),
      ("chequered_flag", [0x1F3C1]), ("cherry_blossom", [0x1F338]), ("christmas_tree", [0x1F384]),
      ("clapping_hands", [0x1F44F]), ("cocktail_glass", [0x1F378]), ("computer_mouse", [0x1F5B1]),
      ("couch_and_lamp", [0x1F6CB]), ("crossed_swords", [0x2694]), ("cup_with_straw", [0x1F964]),
      ("dark_skin_tone", [0x1F3FF]), ("deciduous_tree", [0x1F333]), ("delivery_truck", [0x1F69A]),
      ("derelict_house", [0x1F3DA]), ("earth_americas", [0x1F30E]), ("eleven_o’clock", [0x1F55A]),
      ("european_union", [0x1F1EA, 0x1F1FA]), ("evergreen_tree", [0x1F332]),
      ("exploding_head", [0x1F92F]), ("expressionless", [0x1F611]),
      ("family_man_boy", [0x1F468, 0x200D, 0x1F466]), ("fast_up_button", [0x23EB]),
      ("film_projector", [0x1F4FD]), ("flag_for_aruba", [0x1F1E6, 0x1F1FC]),
      ("flag_for_benin", [0x1F1E7, 0x1F1EF]), ("flag_for_chile", [0x1F1E8, 0x1F1F1]),
      ("flag_for_china", [0x1F1E8, 0x1F1F3]), ("flag_for_egypt", [0x1F1EA, 0x1F1EC]),
      ("flag_for_gabon", [0x1F1EC, 0x1F1E6]), ("flag_for_ghana", [0x1F1EC, 0x1F1ED]),
      ("flag_for_haiti", [0x1F1ED, 0x1F1F9]), ("flag_for_india", [0x1F1EE, 0x1F1F3]),
      ("flag_for_italy", [0x1F1EE, 0x1F1F9]), ("flag_for_japan", [0x1F1EF, 0x1F1F5]),
      ("flag_for_kenya", [0x1F1F0, 0x1F1EA]), ("flag_for_libya", [0x1F1F1, 0x1F1FE]),
      ("flag_for_macau", [0x1F1F2, 0x1F1F4]), ("flag_for_malta", [0x1F1F2, 0x1F1F9]),
      ("flag_for_nauru", [0x1F1F3, 0x1F1F7]), ("flag_for_nepal", [0x1F1F3, 0x1F1F5]),
      ("flag_for_niger", [0x1F1F3, 0x1F1EA]), ("flag_for_palau", [0x1F1F5, 0x1F1FC]),
      ("flag_for_qatar", [0x1F1F6, 0x1F1E6]), ("flag_for_samoa", [0x1F1FC, 0x1F1F8]),
      ("flag_for_spain", [0x1F1EA, 0x1F1F8]), ("flag_for_sudan", [0x1F1F8, 0x1F1E9]),
      ("flag_for_syria", [0x1F1F8, 0x1F1FE]), ("flag_for_tonga", [0x1F1F9, 0x1F1F4]),
      ("flag_for_yemen", [0x1F1FE, 0x1F1EA]), ("fleur__de__lis", [0x269C]),
      ("fork_and_knife", [0x1F374]), ("fortune_cookie", [0x1F960]), ("framed_picture", [0x1F5BC]),
      ("full_moon_face", [0x1F31D]), ("graduation_cap", [0x1F393]), ("grimacing_face", [0x1F62C]),
      ("hatching_chick", [0x1F423]), ("heart_eyes_cat", [0x1F63B]), ("hourglass_done", [0x231B]),
      ("hundred_points", [0x1F4AF]), ("jack-o-lantern", [0x1F383]), ("jack_o_lantern", [0x1F383]),
      ("japanese_dolls", [0x1F38E]),
      ("kiss_woman_man", [0x1F469, 0x200D, 0x2764, 0xFE0F, 0x200D, 0x1F48B, 0x200D, 0x1F468]),
      ("low_brightness", [0x1F505]), ("mailbox_closed", [0x1F4EA]), ("mechanical_arm", [0x1F9BE]),
      ("mechanical_leg", [0x1F9BF]), ("medical_symbol", [0x2695]), ("military_medal", [0x1F396]),
      ("nauseated_face", [0x1F922]), ("no_pedestrians", [0x1F6B7]),
      ("norfolk_island", [0x1F1F3, 0x1F1EB]), ("orthodox_cross", [0x2626]),
      ("page_facing_up", [0x1F4C4]), ("page_with_curl", [0x1F4C3]), ("passenger_ship", [0x1F6F3]),
      ("person_fencing", [0x1F93A]), ("person_golfing", [0x1F3CC]), ("person_pouting", [0x1F64E]),
      ("person_running", [0x1F3C3]), ("person_surfing", [0x1F3C4]), ("person_walking", [0x1F6B6]),
      ("police_officer", [0x1F46E]), ("pound_banknote", [0x1F4B7]), ("pregnant_woman", [0x1F930]),
      ("red-haired_man", [0x1F468, 0x200D, 0x1F9B0]), ("reverse_button", [0x25C0]),
      ("roller_coaster", [0x1F3A2]), ("rotating_light", [0x1F6A8]), ("rugby_football", [0x1F3C9]),
      ("school_satchel", [0x1F392]), ("small_airplane", [0x1F6E9]), ("soft_ice_cream", [0x1F366]),
      ("speech_balloon", [0x1F4AC]), ("spiral_notepad", [0x1F5D2]), ("spouting_whale", [0x1F433]),
      ("st._barthélemy", [0x1F1E7, 0x1F1F1]), ("straight_ruler", [0x1F4CF]),
      ("sweat_droplets", [0x1F4A6]), ("trident_emblem", [0x1F531]), ("tropical_drink", [0x1F379]),
      ("twelve_o’clock", [0x1F55B]), ("two-hump_camel", [0x1F42B]),
      ("united_kingdom", [0x1F1EC, 0x1F1E7]), ("united_nations", [0x1F1FA, 0x1F1F3]),
      ("up-right_arrow", [0x2197]), ("upwards_button", [0x1F53C]), ("vibration_mode", [0x1F4F3]),
      ("weary_cat_face", [0x1F640]), ("western_sahara", [0x1F1EA, 0x1F1ED]),
      ("woman_climbing", [0x1F9D7, 0x200D, 0x2640, 0xFE0F]),
      ("woman_frowning", [0x1F64D, 0x200D, 0x2640, 0xFE0F]),
      ("woman_juggling", [0x1F939, 0x200D, 0x2640, 0xFE0F]),
      ("woman_mechanic", [0x1F469, 0x200D, 0x1F527]),
      ("woman_swimming", [0x1F3CA, 0x200D, 0x2640, 0xFE0F]), ("womans_clothes", [0x1F45A]),
      ("woman’s_sandal", [0x1F461])],
    [("1st_place_medal", [0x1F947]), ("2nd_place_medal", [0x1F948]),
      ("3rd_place_medal", [0x1F949]), ("arrow_double_up", [0x23EB]),
      ("astonished_face", [0x1F632]), ("bell_with_slash", [0x1F515]),
      ("bowl_with_spoon", [0x1F963]), ("bride_with_veil", [0x1F470]),
      ("bridge_at_night", [0x1F309]), ("ceuta_&_melilla", [0x1F1EA, 0x1F1E6]),
      ("closed_umbrella", [0x1F302]), ("cloud_with_rain", [0x1F327]),
      ("cloud_with_snow", [0x1F328]), ("confounded_face", [0x1F616]),
      ("congratulations", [0x3297]), ("cowboy_hat_face", [0x1F920]),
      ("crossed_fingers", [0x1F91E]), ("crying_cat_face", [0x1F63F]),
      ("dark_sunglasses", [0x1F576]), ("dollar_banknote", [0x1F4B5]),
      ("down-left_arrow", [0x2199]), ("dromedary_camel", [0x1F42A]),
      ("european_castle", [0x1F3F0]), ("family_man_girl", [0x1F468, 0x200D, 0x1F467]),
      ("flag_for_angola", [0x1F1E6, 0x1F1F4]), ("flag_for_belize", [0x1F1E7, 0x1F1FF]),
      ("flag_for_bhutan", [0x1F1E7, 0x1F1F9]), ("flag_for_brazil", [0x1F1E7, 0x1F1F7]),
      ("flag_for_brunei", [0x1F1E7, 0x1F1F3]), ("flag_for_canada", [0x1F1E8, 0x1F1E6]),
      ("flag_for_cyprus", [0x1F1E8, 0x1F1FE]), ("flag_for_france", [0x1F1EB, 0x1F1F7]),
      ("flag_for_gambia", [0x1F1EC, 0x1F1F2]), ("flag_for_greece", [0x1F1EC, 0x1F1F7]),
      ("flag_for_guinea", [0x1F1EC, 0x1F1F3]), ("flag_for_guyana", [0x1F1EC, 0x1F1FE]),
      ("flag_for_israel", [0x1F1EE, 0x1F1F1]), ("flag_for_jersey", [0x1F1EF, 0x1F1EA]),
      ("flag_for_jordan", [0x1F1EF, 0x1F1F4]), ("flag_for_kosovo", [0x1F1FD, 0x1F1F0]),
      ("flag_for_kuwait", [0x1F1F0, 0x1F1FC]), ("flag_for_latvia", [0x1F1F1, 0x1F1FB]),
      ("flag_for_malawi", [0x1F1F2, 0x1F1FC]), ("flag_for_mexico", [0x1F1F2, 0x1F1FD]),
      ("flag_for_monaco", [0x1F1F2, 0x1F1E8]), ("flag_for_norway", [0x1F1F3, 0x1F1F4]),
      ("flag_for_panama", [0x1F1F5, 0x1F1E6]), ("flag_for_poland", [0x1F1F5, 0x1F1F1]),
      ("flag_for_russia", [0x1F1F7, 0x1F1FA]), ("flag_for_rwanda", [0x1F1F7, 0x1F1FC]),
      ("flag_for_serbia", [0x1F1F7, 0x1F1F8]), ("flag_for_sweden", [0x1F1F8, 0x1F1EA]),
      ("flag_for_taiwan", [0x1F1F9, 0x1F1FC]), ("flag_for_turkey", [0x1F1F9, 0x1F1F7]),
      ("flag_for_tuvalu", [0x1F1F9, 0x1F1FB]), ("flag_for_uganda", [0x1F1FA, 0x1F1EC]),
      ("flag_for_zambia", [0x1F1FF, 0x1F1F2]), ("hammer_and_pick", [0x2692]),
      ("heavy_plus_sign", [0x2795]), ("high_brightness", [0x1F506]),
      ("house_buildings", [0x1F3D8]), ("izakaya_lantern", [0x1F3EE]),
      ("japanese_castle", [0x1F3EF]), ("japanese_goblin", [0x1F47A]),
      ("keycap_asterisk", [0x2A, 0x20E3]), ("laptop_computer", [0x1F4BB]),
      ("light_skin_tone", [0x1F3FB]), ("locked_with_key", [0x1F510]),
      ("locked_with_pen", [0x1F50F]), ("macau_sar_china", [0x1F1F2, 0x1F1F4]),
      ("man_facepalming", [0x1F926, 0x200D, 0x2642, 0xFE0F]),
      ("man_firefighter", [0x1F468, 0x200D, 0x1F692]),
      ("man_rowing_boat", [0x1F6A3, 0x200D, 0x2642, 0xFE0F]), ("man_with_turban", [0x1F473]),
      ("myanmar_(burma)", [0x1F1F2, 0x1F1F2]), ("office_building", [0x1F3E2]),
      ("performing_arts", [0x1F3AD]), ("person_climbing", [0x1F9D7]),
      ("person_frowning", [0x1F64D]), ("person_juggling", [0x1F939]),
      ("person_kneeling", [0x1F9CE]), ("person_standing", [0x1F9CD]),
      ("person_swimming", [0x1F3CA]), ("pine_decoration", [0x1F38D]),
      ("reminder_ribbon", [0x1F397]), ("school_backpack", [0x1F392]),
      ("signal_strength", [0x1F4F6]), ("solomon_islands", [0x1F1F8, 0x1F1E7]),
      ("sparkling_heart", [0x1F496]), ("spiral_calendar", [0x1F5D3]),
      ("spiral_note_pad", [0x1F5D2]), ("thought_balloon", [0x1F4AD]),
      ("triangular_flag", [0x1F6A9]), ("wallis_&_futuna", [0x1F1FC, 0x1F1EB]),
      ("wheel_of_dharma", [0x2638]), ("woman_astronaut", [0x1F469, 0x200D, 0x1F680]),
      ("woman_detective", [0x1F575, 0xFE0F, 0x200D, 0x2640, 0xFE0F]),
      ("woman_scientist", [0x1F469, 0x200D, 0x1F52C]),
      ("woman_shrugging", [0x1F937, 0x200D, 0x2640, 0xFE0F]), ("woman’s_clothes", [0x1F45A]),
      ("women_wrestling", [0x1F93C, 0x200D, 0x2640, 0xFE0F])],
    [("adhesive_bandage", [0x1FA79]), ("airplane_arrival", [0x1F6EC]),
      ("arrow_down_small", [0x1F53D]), ("arrow_heading_up", [0x2934]),
      ("arrow_lower_left", [0x2199]), ("arrow_right_hook", [0x21AA]),
      ("arrow_upper_left", [0x2196]), ("arrows_clockwise", [0x1F503]),
      ("ascension_island", [0x1F1E6, 0x1F1E8]),
      ("blond-haired_man", [0x1F471, 0x200D, 0x2642, 0xFE0F]), ("bullettrain_side", [0x1F684]),
      ("chart_decreasing", [0x1F4C9]), ("chart_increasing", [0x1F4C8]),
      ("christmas_island", [0x1F1E8, 0x1F1FD]), ("clinking_glasses", [0x1F942]),
      ("congo_-_kinshasa", [0x1F1E8, 0x1F1E9]), ("curly-haired_man", [0x1F468, 0x200D, 0x1F9B1]),
      ("department_store", [0x1F3EC]), ("desktop_computer", [0x1F5A5]),
      ("down-right_arrow", [0x2198]), ("downwards_button", [0x1F53D]),
      ("exclamation_mark", [0x2757]), ("face_with_tongue", [0x1F61B]),
      ("falkland_islands", [0x1F1EB, 0x1F1F0]), ("family_woman_boy", [0x1F469, 0x200D, 0x1F466]),
      ("fast_down_button", [0x23EC]), ("flag_for_albania", [0x1F1E6, 0x1F1F1]),
      ("flag_for_algeria", [0x1F1E9, 0x1F1FF]), ("flag_for_andorra", [0x1F1E6, 0x1F1E9]),
      ("flag_for_armenia", [0x1F1E6, 0x1F1F2]), ("flag_for_austria", [0x1F1E6, 0x1F1F9]),
      ("flag_for_bahamas", [0x1F1E7, 0x1F1F8]), ("flag_for_bahrain", [0x1F1E7, 0x1F1ED]),
      ("flag_for_belarus", [0x1F1E7, 0x1F1FE]), ("flag_for_belgium", [0x1F1E7, 0x1F1EA]),
      ("flag_for_bermuda", [0x1F1E7, 0x1F1F2]), ("flag_for_bolivia", [0x1F1E7, 0x1F1F4]),
      ("flag_for_burundi", [0x1F1E7, 0x1F1EE]), ("flag_for_comoros", [0x1F1F0, 0x1F1F2]),
      ("flag_for_croatia", [0x1F1ED, 0x1F1F7]), ("flag_for_curaçao", [0x1F1E8, 0x1F1FC]),
      ("flag_for_denmark", [0x1F1E9, 0x1F1F0]), ("flag_for_ecuador", [0x1F1EA, 0x1F1E8]),
      ("flag_for_eritrea", [0x1F1EA, 0x1F1F7]), ("flag_for_estonia", [0x1F1EA, 0x1F1EA]),
      ("flag_for_finland", [0x1F1EB, 0x1F1EE]), ("flag_for_georgia", [0x1F1EC, 0x1F1EA]),
      ("flag_for_germany", [0x1F1E9, 0x1F1EA]), ("flag_for_grenada", [0x1F1EC, 0x1F1E9]),
      ("flag_for_hungary", [0x1F1ED, 0x1F1FA]), ("flag_for_iceland", [0x1F1EE, 0x1F1F8]),
      ("flag_for_ireland", [0x1F1EE, 0x1F1EA]), ("flag_for_jamaica", [0x1F1EF, 0x1F1F2]),
      ("flag_for_lebanon", [0x1F1F1, 0x1F1E7]), ("flag_for_lesotho", [0x1F1F1, 0x1F1F8]),
      ("flag_for_liberia", [0x1F1F1, 0x1F1F7]), ("flag_for_mayotte", [0x1F1FE, 0x1F1F9]),
      ("flag_for_moldova", [0x1F1F2, 0x1F1E9]), ("flag_for_morocco", [0x1F1F2, 0x1F1E6]),
      ("flag_for_myanmar", [0x1F1F2, 0x1F1F2]), ("flag_for_namibia", [0x1F1F3, 0x1F1E6]),
      ("flag_for_nigeria", [0x1F1F3, 0x1F1EC]), ("flag_for_romania", [0x1F1F7, 0x1F1F4]),
      ("flag_for_réunion", [0x1F1F7, 0x1F1EA]), ("flag_for_senegal", [0x1F1F8, 0x1F1F3]),
      ("flag_for_somalia", [0x1F1F8, 0x1F1F4]), ("flag_for_tokelau", [0x1F1F9, 0x1F1F0]),
      ("flag_for_tunisia", [0x1F1F9, 0x1F1F3]), ("flag_for_ukraine", [0x1F1FA, 0x1F1E6]),
      ("flag_for_uruguay", [0x1F1FA, 0x1F1FE]), ("flag_for_vanuatu", [0x1F1FB, 0x1F1FA]),
      ("flag_for_vietnam", [0x1F1FB, 0x1F1F3]), ("four_leaf_clover", [0x1F340]),
      ("french_polynesia", [0x1F1F5, 0x1F1EB]), ("grey_exclamation", [0x2755]),
      ("heart_decoration", [0x1F49F]), ("heart_with_arrow", [0x1F498]),
      ("heavy_check_mark", [0x2714]), ("heavy_minus_sign", [0x2796]),
      ("high-heeled_shoe", [0x1F460]), ("high-speed_train", [0x1F684]),
      ("keycap_digit_one", [0x31, 0x20E3]), ("keycap_digit_six", [0x36, 0x20E3]),
      ("keycap_digit_two", [0x32, 0x20E3]),
      ("kiss_woman_woman", [0x1F469, 0x200D, 0x2764, 0xFE0F, 0x200D, 0x1F48B, 0x200D, 0x1F469]),
      ("kissing_cat_face", [0x1F63D]), ("left-facing_fist", [0x1F91B]),
      ("left-right_arrow", [0x2194]), ("left_right_arrow", [0x2194]),
      ("love-you_gesture", [0x1F91F]), ("man_cartwheeling", [0x1F938, 0x200D, 0x2642, 0xFE0F]),
      ("man_gesturing_no", [0x1F645, 0x200D, 0x2642, 0xFE0F]),
      ("man_gesturing_ok", [0x1F646, 0x200D, 0x2642, 0xFE0F]),
      ("man_raising_hand", [0x1F64B, 0x200D, 0x2642, 0xFE0F]),
      ("man_technologist", [0x1F468, 0x200D, 0x1F4BB]),
      ("man_tipping_hand", [0x1F481, 0x200D, 0x2642, 0xFE0F]),
      ("marshall_islands", [0x1F1F2, 0x1F1ED]), ("medium_skin_tone", [0x1F3FD]),
      ("mobile_phone_off", [0x1F4F4]), ("money-mouth_face", [0x1F911]),
      ("money_with_wings", [0x1F4B8]), ("mountain_railway", [0x1F69E]),
      ("musical_keyboard", [0x1F3B9]), ("night_with_stars", [0x1F303]),
      ("no_mobile_phones", [0x1F4F5]), ("open_file_folder", [0x1F4C2]),
      ("papua_new_guinea", [0x1F1F5, 0x1F1EC]), ("passport_control", [0x1F6C2]),
      ("people_wrestling", [0x1F93C]), ("persevering_face", [0x1F623]),
      ("person_shrugging", [0x1F937]), ("person_with_ball", [0x26F9]),
      ("pitcairn_islands", [0x1F1F5, 0x1F1F3]), ("place_of_worship", [0x1F6D0]),
      ("police_car_light", [0x1F6A8]), ("pouting_cat_face", [0x1F63E]),
      ("radioactive_sign", [0x2622]), ("recycling_symbol", [0x267B]),
      ("red-haired_woman", [0x1F469, 0x200D, 0x1F9B0]), ("revolving_hearts", [0x1F49E]),
      ("six_pointed_star", [0x1F52F]), ("steam_locomotive", [0x1F682]),
      ("stuck_out_tongue", [0x1F61B]), ("sun_behind_cloud", [0x26C5]),
      ("triangular_ruler", [0x1F4D0]), ("tristan_da_cunha", [0x1F1F9, 0x1F1E6]),
      ("upside-down_face", [0x1F643]), ("white-haired_man", [0x1F468, 0x200D, 0x1F9B3]),
      ("white_check_mark", [0x2705])]]

def codesTo24 : List (List (String × List Nat)) :=
  [[("admission_tickets", [0x1F39F]), ("airplane_arriving", [0x1F6EC]),
      ("american_football", [0x1F3C8]), ("antigua_&_barbuda", [0x1F1E6, 0x1F1EC]),
      ("arrow_double_down", [0x23EC]), ("arrow_lower_right", [0x2198]),
      ("arrow_upper_right", [0x2197]), ("articulated_lorry", [0x1F69B]),
      ("bullettrain_front", [0x1F685]), ("camera_with_flash", [0x1F4F8]),
      ("children_crossing", [0x1F6B8]), ("cityscape_at_dusk", [0x1F306]),
      ("clipperton_island", [0x1F1E8, 0x1F1F5]), ("convenience_store", [0x1F3EA]),
      ("couple_with_heart", [0x1F491]), ("cross_mark_button", [0x274E]),
      ("currency_exchange", [0x1F4B1]), ("disappointed_face", [0x1F61E]),
      ("double_curly_loop", [0x27BF]), ("equatorial_guinea", [0x1F1EC, 0x1F1F6]),
      ("face_with_monocle", [0x1F9D0]), ("family_woman_girl", [0x1F469, 0x200D, 0x1F467]),
      ("fire_extinguisher", [0x1F9EF]), ("flag_for_anguilla", [0x1F1E6, 0x1F1EE]),
      ("flag_for_barbados", [0x1F1E7, 0x1F1E7]), ("flag_for_botswana", [0x1F1E7, 0x1F1FC]),
      ("flag_for_bulgaria", [0x1F1E7, 0x1F1EC]), ("flag_for_cambodia", [0x1F1F0, 0x1F1ED]),
      ("flag_for_cameroon", [0x1F1E8, 0x1F1F2]), ("flag_for_colombia", [0x1F1E8, 0x1F1F4]),
      ("flag_for_djibouti", [0x1F1E9, 0x1F1EF]), ("flag_for_dominica", [0x1F1E9, 0x1F1F2]),
      ("flag_for_ethiopia", [0x1F1EA, 0x1F1F9]), ("flag_for_guernsey", [0x1F1EC, 0x1F1EC]),
      ("flag_for_honduras", [0x1F1ED, 0x1F1F3]), ("flag_for_kiribati", [0x1F1F0, 0x1F1EE]),
      ("flag_for_malaysia", [0x1F1F2, 0x1F1FE]), ("flag_for_maldives", [0x1F1F2, 0x1F1FB]),
      ("flag_for_mongolia", [0x1F1F2, 0x1F1F3]), ("flag_for_pakistan", [0x1F1F5, 0x1F1F0]),
      ("flag_for_paraguay", [0x1F1F5, 0x1F1FE]), ("flag_for_portugal", [0x1F1F5, 0x1F1F9]),
      ("flag_for_slovakia", [0x1F1F8, 0x1F1F0]), ("flag_for_slovenia", [0x1F1F8, 0x1F1EE]),
      ("flag_for_suriname", [0x1F1F8, 0x1F1F7]), ("flag_for_tanzania", [0x1F1F9, 0x1F1FF]),
      ("flag_for_thailand", [0x1F1F9, 0x1F1ED]), ("flag_for_zimbabwe", [0x1F1FF, 0x1F1FC]),
      ("grinning_cat_face", [0x1F63A]), ("hammer_and_wrench", [0x1F6E0]),
      ("heart_with_ribbon", [0x1F49D]), ("heavy_dollar_sign", [0x1F4B2]),
      ("house_with_garden", [0x1F3E1]), ("incoming_envelope", [0x1F4E8]),
      ("index_pointing_up", [0x261D]), ("keycap_digit_five", [0x35, 0x20E3]),
      ("keycap_digit_four", [0x34, 0x20E3]), ("keycap_digit_nine", [0x39, 0x20E3]),
      ("keycap_digit_zero", [0x30, 0x20E3]), ("large_blue_circle", [0x1F535]),
      ("last_quarter_moon", [0x1F317]), ("last_track_button", [0x23EE]),
      ("linked_paperclips", [0x1F587]), ("lock_with_ink_pen", [0x1F50F]),
      ("lower_left_crayon", [0x1F58D]), ("mailbox_with_mail", [0x1F4EC]),
      ("man_bouncing_ball", [0x26F9, 0xFE0F, 0x200D, 0x2642, 0xFE0F]),
      ("man_health_worker", [0x1F468, 0x200D, 0x2695, 0xFE0F]),
      ("man_office_worker", [0x1F468, 0x200D, 0x1F4BC]), ("mantelpiece_clock", [0x1F570]),
      ("manual_wheelchair", [0x1F9BD]), ("money__mouth_face", [0x1F911]),
      ("mountain_cableway", [0x1F6A0]), ("next_track_button", [0x23ED]),
      ("non-potable_water", [0x1F6B1]), ("palms_up_together", [0x1F932]),
      ("racing_motorcycle", [0x1F3CD]), ("red_paper_lantern", [0x1F3EE]),
      ("right-facing_fist", [0x1F91C]), ("satellite_antenna", [0x1F4E1]),
      ("sign_of_the_horns", [0x1F918]), ("st._kitts_&_nevis", [0x1F1F0, 0x1F1F3]),
      ("star_and_crescent", [0x262A]), ("statue_of_liberty", [0x1F5FD]),
      ("studio_microphone", [0x1F399]), ("stuffed_flatbread", [0x1F959]),
      ("tear-off_calendar", [0x1F4C6]), ("trinidad_&_tobago", [0x1F1F9, 0x1F1F9]),
      ("upside__down_face", [0x1F643]), ("waving_black_flag", [0x1F3F4]),
      ("waving_white_flag", [0x1F3F3]), ("wheelchair_symbol", [0x267F]),
      ("white_medium_star", [0x2B50]), ("wind_blowing_face", [0x1F32C]),
      ("woman_facepalming", [0x1F926, 0x200D, 0x2640, 0xFE0F]),
      ("woman_firefighter", [0x1F469, 0x200D, 0x1F692]),
      ("woman_rowing_boat", [0x1F6A3, 0x200D, 0x2640, 0xFE0F]), ("zipper-mouth_face", [0x1F910])],
    [("airplane_departure", [0x1F6EB]), ("arrow_heading_down", [0x2935]),
      ("black_large_square", [0x2B1B]), ("black_small_square", [0x25AA]),
      ("blond-haired_woman", [0x1F471, 0x200D, 0x2640, 0xFE0F]),
      ("boy_dark_skin_tone", [0x1F466, 0x1F3FF]), ("bust_in_silhouette", [0x1F464]),
      ("classical_building", [0x1F3DB]), ("clinking_beer_mugs", [0x1F37B]),
      ("cloud_with_tornado", [0x1F32A]), ("curly-haired_woman", [0x1F469, 0x200D, 0x1F9B1]),
      ("diamond_with_a_dot", [0x1F4A0]), ("dominican_republic", [0x1F1E9, 0x1F1F4]),
      ("ear_dark_skin_tone", [0x1F442, 0x1F3FF]), ("eight-pointed_star", [0x2734]),
      ("elf_dark_skin_tone", [0x1F9DD, 0x1F3FF]), ("face_savoring_food", [0x1F60B]),
      ("face_without_mouth", [0x1F636]),
      ("family_man_boy_boy", [0x1F468, 0x200D, 0x1F466, 0x200D, 0x1F466]),
      ("family_man_man_boy", [0x1F468, 0x200D, 0x1F468, 0x200D, 0x1F466]),
      ("first_quarter_moon", [0x1F313]), ("flag_for_argentina", [0x1F1E6, 0x1F1F7]),
      ("flag_for_australia", [0x1F1E6, 0x1F1FA]), ("flag_for_gibraltar", [0x1F1EC, 0x1F1EE]),
      ("flag_for_greenland", [0x1F1EC, 0x1F1F1]), ("flag_for_guatemala", [0x1F1EC, 0x1F1F9]),
      ("flag_for_hong_kong", [0x1F1ED, 0x1F1F0]), ("flag_for_indonesia", [0x1F1EE, 0x1F1E9]),
      ("flag_for_lithuania", [0x1F1F1, 0x1F1F9]), ("flag_for_macedonia", [0x1F1F2, 0x1F1F0]),
      ("flag_for_mauritius", [0x1F1F2, 0x1F1FA]), ("flag_for_nicaragua", [0x1F1F3, 0x1F1EE]),
      ("flag_for_singapore", [0x1F1F8, 0x1F1EC]), ("flag_for_sri_lanka", [0x1F1F1, 0x1F1F0]),
      ("flag_for_st._lucia", [0x1F1F1, 0x1F1E8]), ("flag_for_swaziland", [0x1F1F8, 0x1F1FF]),
      ("flag_for_venezuela", [0x1F1FB, 0x1F1EA]), ("frame_with_picture", [0x1F5BC]),
      ("heavy_large_circle", [0x2B55]), ("hourglass_not_done", [0x23F3]),
      ("information_source", [0x2139]), ("keycap_digit_eight", [0x38, 0x20E3]),
      ("keycap_digit_seven", [0x37, 0x20E3]), ("keycap_digit_three", [0x33, 0x20E3]),
      ("keycap_number_sign", [0x23, 0x20E3]), ("large_blue_diamond", [0x1F537]),
      ("left_speech_bubble", [0x1F5E8]), ("litter_in_bin_sign", [0x1F6AE]),
      ("loudly_crying_face", [0x1F62D]), ("mahjong_red_dragon", [0x1F004]),
      ("man_dark_skin_tone", [0x1F468, 0x1F3FF]),
      ("man_factory_worker", [0x1F468, 0x200D, 0x1F3ED]),
      ("man_in_steamy_room", [0x1F9D6, 0x200D, 0x2642, 0xFE0F]),
      ("man_police_officer", [0x1F46E, 0x200D, 0x2642, 0xFE0F]),
      ("man_wearing_turban", [0x1F473, 0x200D, 0x2642, 0xFE0F]), ("mountain_bicyclist", [0x1F6B5]),
      ("new_moon_with_face", [0x1F31A]), ("non__potable_water", [0x1F6B1]),
      ("one-piece_swimsuit", [0x1FA71]), ("person_facepalming", [0x1F926]),
      ("person_rowing_boat", [0x1F6A3]), ("person_taking_bath", [0x1F6C0]),
      ("right_anger_bubble", [0x1F5EF]), ("see-no-evil_monkey", [0x1F648]),
      ("small_blue_diamond", [0x1F539]), ("small_red_triangle", [0x1F53A]),
      ("speaker_low_volume", [0x1F508]), ("suspension_railway", [0x1F69F]),
      ("telephone_receiver", [0x1F4DE]), ("three_button_mouse", [0x1F5B1]),
      ("umbrella_on_ground", [0x26F1]), ("white-haired_woman", [0x1F469, 0x200D, 0x1F9B3]),
      ("white_large_square", [0x2B1C]), ("white_small_square", [0x25AB]),
      ("woman_cartwheeling", [0x1F938, 0x200D, 0x2640, 0xFE0F]),
      ("woman_gesturing_no", [0x1F645, 0x200D, 0x2640, 0xFE0F]),
      ("woman_gesturing_ok", [0x1F646, 0x200D, 0x2640, 0xFE0F]),
      ("woman_raising_hand", [0x1F64B, 0x200D, 0x2640, 0xFE0F]),
      ("woman_technologist", [0x1F469, 0x200D, 0x1F4BB]),
      ("woman_tipping_hand", [0x1F481, 0x200D, 0x2640, 0xFE0F]),
      ("zipper__mouth_face", [0x1F910])],
    [("baby_dark_skin_tone", [0x1F476, 0x1F3FF]), ("beach_with_umbrella", [0x1F3D6]),
      ("black_medium_square", [0x25FC]), ("black_square_button", [0x1F532]),
      ("blond-haired_person", [0x1F471]), ("boy_light_skin_tone", [0x1F466, 0x1F3FB]),
      ("busts_in_silhouette", [0x1F465]), ("card_index_dividers", [0x1F5C2]),
      ("congo_-_brazzaville", [0x1F1E8, 0x1F1EC]), ("construction_worker", [0x1F477]),
      ("double_vertical_bar", [0x23F8]), ("ear_light_skin_tone", [0x1F442, 0x1F3FB]),
      ("elf_light_skin_tone", [0x1F9DD, 0x1F3FB]), ("envelope_with_arrow", [0x1F4E9]),
      ("expressionless_face", [0x1F611]), ("face_blowing_a_kiss", [0x1F618]),
      ("family_man_girl_boy", [0x1F468, 0x200D, 0x1F467, 0x200D, 0x1F466]),
      ("family_man_man_girl", [0x1F468, 0x200D, 0x1F468, 0x200D, 0x1F467]),
      ("fast-forward_button", [0x23E9]), ("fast_reverse_button", [0x23EA]),
      ("flag_for_antarctica", [0x1F1E6, 0x1F1F6]), ("flag_for_azerbaijan", [0x1F1E6, 0x1F1FF]),
      ("flag_for_bangladesh", [0x1F1E7, 0x1F1E9]), ("flag_for_cape_verde", [0x1F1E8, 0x1F1FB]),
      ("flag_for_costa_rica", [0x1F1E8, 0x1F1F7]), ("flag_for_guadeloupe", [0x1F1EC, 0x1F1F5]),
      ("flag_for_kazakhstan", [0x1F1F0, 0x1F1FF]), ("flag_for_kyrgyzstan", [0x1F1F0, 0x1F1EC]),
      ("flag_for_luxembourg", [0x1F1F1, 0x1F1FA]), ("flag_for_madagascar", [0x1F1F2, 0x1F1EC]),
      ("flag_for_martinique", [0x1F1F2, 0x1F1F6]), ("flag_for_mauritania", [0x1F1F2, 0x1F1F7]),
      ("flag_for_micronesia", [0x1F1EB, 0x1F1F2]), ("flag_for_montenegro", [0x1F1F2, 0x1F1EA]),
      ("flag_for_montserrat", [0x1F1F2, 0x1F1F8]), ("flag_for_mozambique", [0x1F1F2, 0x1F1FF]),
      ("flag_for_san_marino", [0x1F1F8, 0x1F1F2]), ("flag_for_seychelles", [0x1F1F8, 0x1F1E8]),
      ("flag_for_st._helena", [0x1F1F8, 0x1F1ED]), ("flag_for_st._martin", [0x1F1F2, 0x1F1EB]),
      ("flag_for_tajikistan", [0x1F1F9, 0x1F1EF]), ("flag_for_uzbekistan", [0x1F1FA, 0x1F1FF]),
      ("full_moon_with_face", [0x1F31D]), ("girl_dark_skin_tone", [0x1F467, 0x1F3FF]),
      ("hear-no-evil_monkey", [0x1F649]), ("heavy_division_sign", [0x2797]),
      ("hong_kong_sar_china", [0x1F1ED, 0x1F1F0]), ("ideograph_advantage", [0x1F250]),
      ("input_latin_letters", [0x1F524]), ("kissing_closed_eyes", [0x1F61A]),
      ("mage_dark_skin_tone", [0x1F9D9, 0x1F3FF]),
      ("man_getting_haircut", [0x1F487, 0x200D, 0x2642, 0xFE0F]),
      ("man_getting_massage", [0x1F486, 0x200D, 0x2642, 0xFE0F]),
      ("man_lifting_weights", [0x1F3CB, 0xFE0F, 0x200D, 0x2642, 0xFE0F]),
      ("man_light_skin_tone", [0x1F468, 0x1F3FB]),
      ("man_mountain_biking", [0x1F6B5, 0x200D, 0x2642, 0xFE0F]),
      ("man_with_gua_pi_mao", [0x1F472]),
      ("men_with_bunny_ears", [0x1F46F, 0x200D, 0x2642, 0xFE0F]),
      ("nose_dark_skin_tone", [0x1F443, 0x1F3FF]), ("oncoming_automobile", [0x1F698]),
      ("oncoming_police_car", [0x1F694]), ("person_cartwheeling", [0x1F938]),
      ("person_gesturing_no", [0x1F645]), ("person_gesturing_ok", [0x1F646]),
      ("person_raising_hand", [0x1F64B]), ("person_tipping_hand", [0x1F481]),
      ("raised_back_of_hand", [0x1F91A]), ("rolled-up_newspaper", [0x1F5DE]),
      ("shallow_pan_of_food", [0x1F958]), ("speaker_high_volume", [0x1F50A]),
      ("spiral_calendar_pad", [0x1F5D3]), ("são_tomé_&_príncipe", [0x1F1F8, 0x1F1F9]),
      ("u.s._virgin_islands", [0x1F1FB, 0x1F1EE]), ("waning_gibbous_moon", [0x1F316]),
      ("waxing_gibbous_moon", [0x1F314]), ("white_frowning_face", [0x2639]),
      ("white_medium_square", [0x25FB]), ("white_question_mark", [0x2754]),
      ("white_square_button", [0x1F533]),
      ("woman_bouncing_ball", [0x26F9, 0xFE0F, 0x200D, 0x2640, 0xFE0F]),
      ("woman_health_worker", [0x1F469, 0x200D, 0x2695, 0xFE0F]),
      ("woman_office_worker", [0x1F469, 0x200D, 0x1F4BC])],
    [("adult_dark_skin_tone", [0x1F9D1, 0x1F3FF]), ("baby_light_skin_tone", [0x1F476, 0x1F3FB]),
      ("bosnia_&_herzegovina", [0x1F1E7, 0x1F1E6]), ("boy_medium_skin_tone", [0x1F466, 0x1F3FD]),
      ("child_dark_skin_tone", [0x1F9D2, 0x1F3FF]), ("closed_lock_with_key", [0x1F510]),
      ("cloud_with_lightning", [0x1F329]), ("cricket_bat_and_ball", [0x1F3CF]),
      ("ear_medium_skin_tone", [0x1F442, 0x1F3FD]), ("ear_with_hearing_aid", [0x1F9BB]),
      ("elf_medium_skin_tone", [0x1F9DD, 0x1F3FD]), ("european_post_office", [0x1F3E4]),
      ("eye_in_speech_bubble", [0x1F441, 0xFE0F, 0x200D, 0x1F5E8, 0xFE0F]),
      ("face_with_open_mouth", [0x1F62E]), ("fairy_dark_skin_tone", [0x1F9DA, 0x1F3FF]),
      ("family_man_girl_girl", [0x1F468, 0x200D, 0x1F467, 0x200D, 0x1F467]),
      ("family_man_woman_boy", [0x1F468, 0x200D, 0x1F469, 0x200D, 0x1F466]),
      ("family_woman_boy_boy", [0x1F469, 0x200D, 0x1F466, 0x200D, 0x1F466]),
      ("fish_cake_with_swirl", [0x1F365]), ("flag_for_afghanistan", [0x1F1E6, 0x1F1EB]),
      ("flag_for_el_salvador", [0x1F1F8, 0x1F1FB]), ("flag_for_isle_of_man", [0x1F1EE, 0x1F1F2]),
      ("flag_for_netherlands", [0x1F1F3, 0x1F1F1]), ("flag_for_new_zealand", [0x1F1F3, 0x1F1FF]),
      ("flag_for_north_korea", [0x1F1F0, 0x1F1F5]), ("flag_for_philippines", [0x1F1F5, 0x1F1ED]),
      ("flag_for_puerto_rico", [0x1F1F5, 0x1F1F7]), ("flag_for_south_korea", [0x1F1F0, 0x1F1F7]),
      ("flag_for_south_sudan", [0x1F1F8, 0x1F1F8]), ("flag_for_switzerland", [0x1F1E8, 0x1F1ED]),
      ("flower_playing_cards", [0x1F3B4]), ("girl_light_skin_tone", [0x1F467, 0x1F3FB]),
      ("globe_with_meridians", [0x1F310]), ("guard_dark_skin_tone", [0x1F482, 0x1F3FF]),
      ("japanese_here_button", [0x1F201]), ("japanese_post_office", [0x1F3E3]),
      ("kissing_smiling_eyes", [0x1F619]), ("large_orange_diamond", [0x1F536]),
      ("mage_light_skin_tone", [0x1F9D9, 0x1F3FB]), ("mailbox_with_no_mail", [0x1F4ED]),
      ("man_medium_skin_tone", [0x1F468, 0x1F3FD]),
      ("man_playing_handball", [0x1F93E, 0x200D, 0x2642, 0xFE0F]),
      ("man_with_chinese_cap", [0x1F472]), ("martial_arts_uniform", [0x1F94B]),
      ("motorized_wheelchair", [0x1F9BC]), ("nose_light_skin_tone", [0x1F443, 0x1F3FB]),
      ("people_holding_hands", [0x1F9D1, 0x200D, 0x1F91D, 0x200D, 0x1F9D1]),
      ("person_bouncing_ball", [0x26F9]), ("play_or_pause_button", [0x23EF]),
      ("regional_indicator_a", [0x1F1E6]), ("regional_indicator_b", [0x1F1E7]),
      ("regional_indicator_c", [0x1F1E8]), ("regional_indicator_d", [0x1F1E9]),
      ("regional_indicator_e", [0x1F1EA]), ("regional_indicator_f", [0x1F1EB]),
      ("regional_indicator_g", [0x1F1EC]), ("regional_indicator_h", [0x1F1ED]),
      ("regional_indicator_i", [0x1F1EE]), ("regional_indicator_j", [0x1F1EF]),
      ("regional_indicator_k", [0x1F1F0]), ("regional_indicator_l", [0x1F1F1]),
      ("regional_indicator_m", [0x1F1F2]), ("regional_indicator_n", [0x1F1F3]),
      ("regional_indicator_o", [0x1F1F4]), ("regional_indicator_p", [0x1F1F5]),
      ("regional_indicator_q", [0x1F1F6]), ("regional_indicator_r", [0x1F1F7]),
      ("regional_indicator_s", [0x1F1F8]), ("regional_indicator_t", [0x1F1F9]),
      ("regional_indicator_u", [0x1F1FA]), ("regional_indicator_v", [0x1F1FB]),
      ("regional_indicator_w", [0x1F1FC]), ("regional_indicator_x", [0x1F1FD]),
      ("regional_indicator_y", [0x1F1FE]), ("regional_indicator_z", [0x1F1FF]),
      ("repeat_single_button", [0x1F502]), ("roasted_sweet_potato", [0x1F360]),
      ("rolled__up_newspaper", [0x1F5DE]), ("skull_and_crossbones", [0x2620]),
      ("small_orange_diamond", [0x1F538]), ("snow-capped_mountain", [0x1F3D4]),
      ("snow_capped_mountain", [0x1F3D4]), ("snowman_without_snow", [0x26C4]),
      ("speak-no-evil_monkey", [0x1F64A]), ("svalbard_&_jan_mayen", [0x1F1F8, 0x1F1EF]),
      ("united_arab_emirates", [0x1F1E6, 0x1F1EA]), ("waning_crescent_moon", [0x1F318]),
      ("waxing_crescent_moon", [0x1F312]), ("woman_dark_skin_tone", [0x1F469, 0x1F3FF]),
      ("woman_factory_worker", [0x1F469, 0x200D, 0x1F3ED]),
      ("woman_in_steamy_room", [0x1F9D6, 0x200D, 0x2640, 0xFE0F]),
      ("woman_police_officer", [0x1F46E, 0x200D, 0x2640, 0xFE0F]),
      ("woman_wearing_turban", [0x1F473, 0x200D, 0x2640, 0xFE0F]),
      ("woman_with_headscarf", [0x1F9D5])],
    [("a_button_(blood_type)", [0x1F170]), ("adult_light_skin_tone", [0x1F9D1, 0x1F3FB]),
      ("angry_face_with_horns", [0x1F47F]), ("b_button_(blood_type)", [0x1F171]),
      ("baby_medium_skin_tone", [0x1F476, 0x1F3FD]), ("ballot_box_with_check", [0x2611]),
      ("black_square_for_stop", [0x23F9]), ("building_construction", [0x1F3D7]),
      ("caribbean_netherlands", [0x1F1E7, 0x1F1F6]), ("child_light_skin_tone", [0x1F9D2, 0x1F3FB]),
      ("disappointed_relieved", [0x1F625]), ("eight-spoked_asterisk", [0x2733]),
      ("eight_spoked_asterisk", [0x2733]), ("face_with_thermometer", [0x1F912]),
      ("fairy_light_skin_tone", [0x1F9DA, 0x1F3FB]),
      ("family_man_woman_girl", [0x1F468, 0x200D, 0x1F469, 0x200D, 0x1F467]),
      ("family_woman_girl_boy", [0x1F469, 0x200D, 0x1F467, 0x200D, 0x1F466]),
      ("fishing_pole_and_fish", [0x1F3A3]), ("flag_for_burkina_faso", [0x1F1E7, 0x1F1EB]),
      ("flag_for_cook_islands", [0x1F1E8, 0x1F1F0]), ("flag_for_diego_garcia", [0x1F1E9, 0x1F1EC]),
      ("flag_for_saudi_arabia", [0x1F1F8, 0x1F1E6]), ("flag_for_sierra_leone", [0x1F1F8, 0x1F1F1]),
      ("flag_for_sint_maarten", [0x1F1F8, 0x1F1FD]), ("flag_for_south_africa", [0x1F1FF, 0x1F1E6]),
      ("flag_for_timor__leste", [0x1F1F9, 0x1F1F1]), ("flag_for_turkmenistan", [0x1F1F9, 0x1F1F2]),
      ("flag_for_vatican_city", [0x1F1FB, 0x1F1E6]), ("girl_medium_skin_tone", [0x1F467, 0x1F3FD]),
      ("guard_light_skin_tone", [0x1F482, 0x1F3FB]), ("input_latin_lowercase", [0x1F521]),
      ("input_latin_uppercase", [0x1F520]), ("lower_left_paintbrush", [0x1F58C]),
      ("mage_medium_skin_tone", [0x1F9D9, 0x1F3FD]),
      ("man_in_lotus_position", [0x1F9D8, 0x200D, 0x2642, 0xFE0F]),
      ("man_with_probing_cane", [0x1F468, 0x200D, 0x1F9AF]), ("medium_dark_skin_tone", [0x1F3FE]),
      ("merman_dark_skin_tone", [0x1F9DC, 0x1F3FF, 0x200D, 0x2642, 0xFE0F]),
      ("moon_viewing_ceremony", [0x1F391]), ("no_one_under_eighteen", [0x1F51E]),
      ("nose_medium_skin_tone", [0x1F443, 0x1F3FD]), ("o_button_(blood_type)", [0x1F17E]),
      ("part_alternation_mark", [0x303D]), ("person_in_steamy_room", [0x1F9D6]),
      ("person_wearing_turban", [0x1F473]), ("prince_dark_skin_tone", [0x1F934, 0x1F3FF]),
      ("sad_but_relieved_face", [0x1F625]), ("selfie_dark_skin_tone", [0x1F933, 0x1F3FF]),
      ("shuffle_tracks_button", [0x1F500]), ("slightly_smiling_face", [0x1F642]),
      ("speaker_medium_volume", [0x1F509]), ("sport_utility_vehicle", [0x1F699]),
      ("st._pierre_&_miquelon", [0x1F1F5, 0x1F1F2]), ("sun_behind_rain_cloud", [0x1F326]),
      ("teacup_without_handle", [0x1F375]), ("two_men_holding_hands", [0x1F46C]),
      ("u.s._outlying_islands", [0x1F1FA, 0x1F1F2]),
      ("woman_getting_haircut", [0x1F487, 0x200D, 0x2640, 0xFE0F]),
      ("woman_getting_massage", [0x1F486, 0x200D, 0x2640, 0xFE0F]),
      ("woman_lifting_weights", [0x1F3CB, 0xFE0F, 0x200D, 0x2640, 0xFE0F]),
      ("woman_light_skin_tone", [0x1F469, 0x1F3FB]),
      ("woman_mountain_biking", [0x1F6B5, 0x200D, 0x2640, 0xFE0F]),
      ("women_with_bunny_ears", [0x1F46F, 0x200D, 0x2640, 0xFE0F])],
    [("ab_button_(blood_type)", [0x1F18E]), ("adult_medium_skin_tone", [0x1F9D1, 0x1F3FD]),
      ("ballot_box_with_ballot", [0x1F5F3]), ("british_virgin_islands", [0x1F1FB, 0x1F1EC]),
      ("child_medium_skin_tone", [0x1F9D2, 0x1F3FD]), ("face_screaming_in_fear", [0x1F631]),
      ("face_with_head-bandage", [0x1F915]), ("face_with_medical_mask", [0x1F637]),
      ("face_with_rolling_eyes", [0x1F644]), ("face_with_tears_of_joy", [0x1F602]),
      ("fairy_medium_skin_tone", [0x1F9DA, 0x1F3FD]),
      ("family_man_man_boy_boy", [0x1F468, 0x200D, 0x1F468, 0x200D, 0x1F466, 0x200D, 0x1F466]),
      ("family_woman_girl_girl", [0x1F469, 0x200D, 0x1F467, 0x200D, 0x1F467]),
      ("family_woman_woman_boy", [0x1F469, 0x200D, 0x1F469, 0x200D, 0x1F466]),
      ("flag_for_bouvet_island", [0x1F1E7, 0x1F1FB]),
      ("flag_for_côte_d’ivoire", [0x1F1E8, 0x1F1EE]),
      ("flag_for_faroe_islands", [0x1F1EB, 0x1F1F4]),
      ("flag_for_french_guiana", [0x1F1EC, 0x1F1EB]),
      ("flag_for_liechtenstein", [0x1F1F1, 0x1F1EE]),
      ("flag_for_new_caledonia", [0x1F1F3, 0x1F1E8]),
      ("flag_for_united_states", [0x1F1FA, 0x1F1F8]),
      ("flag_for_åland_islands", [0x1F1E6, 0x1F1FD]), ("globe_showing_americas", [0x1F30E]),
      ("guard_medium_skin_tone", [0x1F482, 0x1F3FD]), ("heavy_exclamation_mark", [0x2757]),
      ("heavy_multiplication_x", [0x2716]), ("hourglass_flowing_sand", [0x23F3]),
      ("japanese_secret_button", [0x3299]), ("last_quarter_moon_face", [0x1F31C]),
      ("man_elf_dark_skin_tone", [0x1F9DD, 0x1F3FF, 0x200D, 0x2642, 0xFE0F]),
      ("man_in_suit_levitating", [0x1F574]),
      ("man_playing_water_polo", [0x1F93D, 0x200D, 0x2642, 0xFE0F]),
      ("medium_light_skin_tone", [0x1F3FC]),
      ("mermaid_dark_skin_tone", [0x1F9DC, 0x1F3FF, 0x200D, 0x2640, 0xFE0F]),
      ("merman_light_skin_tone", [0x1F9DC, 0x1F3FB, 0x200D, 0x2642, 0xFE0F]),
      ("ok_hand_dark_skin_tone", [0x1F44C, 0x1F3FF]),
      ("old_man_dark_skin_tone", [0x1F474, 0x1F3FF]), ("people_with_bunny_ears", [0x1F46F]),
      ("person_getting_haircut", [0x1F487]), ("person_getting_massage", [0x1F486]),
      ("person_lifting_weights", [0x1F3CB]), ("person_mountain_biking", [0x1F6B5]),
      ("person_with_blond_hair", [0x1F471]), ("prince_light_skin_tone", [0x1F934, 0x1F3FB]),
      ("rescue_worker’s_helmet", [0x26D1]), ("right_arrow_curving_up", [0x2934]),
      ("selfie_light_skin_tone", [0x1F933, 0x1F3FB]), ("sleeping_accommodation", [0x1F6CC]),
      ("slightly_frowning_face", [0x1F641]), ("smiling_face_with_halo", [0x1F607]),
      ("sun_behind_large_cloud", [0x1F325]), ("sun_behind_small_cloud", [0x1F324]),
      ("sunrise_over_mountains", [0x1F304]), ("thunder_cloud_and_rain", [0x26C8]),
      ("turks_&_caicos_islands", [0x1F1F9, 0x1F1E8]),
      ("vampire_dark_skin_tone", [0x1F9DB, 0x1F3FF]), ("vertical_traffic_light", [0x1F6A6]),
      ("white_exclamation_mark", [0x2755]), ("white_heavy_check_mark", [0x2705]),
      ("white_sun_behind_cloud", [0x1F325]), ("woman_medium_skin_tone", [0x1F469, 0x1F3FD]),
      ("woman_playing_handball", [0x1F93E, 0x200D, 0x2640, 0xFE0F])],
    [("anxious_face_with_sweat", [0x1F630]), ("arrows_counterclockwise", [0x1F504]),
      ("black_circle_for_record", [0x23FA]), ("cat_face_with_wry_smile", [0x1F63C]),
      ("cocos_(keeling)_islands", [0x1F1E8, 0x1F1E8]), ("derelict_house_building", [0x1F3DA]),
      ("dotted_six-pointed_star", [0x1F52F]), ("double_exclamation_mark", [0x203C]),
      ("face_with_head__bandage", [0x1F915]),
      ("family_man_man_girl_boy", [0x1F468, 0x200D, 0x1F468, 0x200D, 0x1F467, 0x200D, 0x1F466]),
      ("family_woman_woman_girl", [0x1F469, 0x200D, 0x1F469, 0x200D, 0x1F467]),
      ("first_quarter_moon_face", [0x1F31B]), ("flag_for_american_samoa", [0x1F1E6, 0x1F1F8]),
      ("flag_for_canary_islands", [0x1F1EE, 0x1F1E8]),
      ("flag_for_cayman_islands", [0x1F1F0, 0x1F1FE]),
      ("flag_for_cocos__islands", [0x1F1E8, 0x1F1E8]),
      ("flag_for_czech_republic", [0x1F1E8, 0x1F1FF]),
      ("flag_for_european_union", [0x1F1EA, 0x1F1FA]),
      ("flag_for_guinea__bissau", [0x1F1EC, 0x1F1FC]),
      ("flag_for_norfolk_island", [0x1F1F3, 0x1F1EB]),
      ("flag_for_st._barthélemy", [0x1F1E7, 0x1F1F1]),
      ("flag_for_united_kingdom", [0x1F1EC, 0x1F1E7]),
      ("flag_for_western_sahara", [0x1F1EA, 0x1F1ED]), ("front-facing_baby_chick", [0x1F425]),
      ("grinning_squinting_face", [0x1F606]), ("heavy_heart_exclamation", [0x2763]),
      ("helmet_with_white_cross", [0x26D1]), ("information_desk_person", [0x1F481]),
      ("japanese_bargain_button", [0x1F250]), ("japanese_vacancy_button", [0x1F233]),
      ("leaf_fluttering_in_wind", [0x1F343]), ("lower_left_fountain_pen", [0x1F58B]),
      ("man_construction_worker", [0x1F477, 0x200D, 0x2642, 0xFE0F]),
      ("man_cook_dark_skin_tone", [0x1F468, 0x1F3FF, 0x200D, 0x1F373]),
      ("man_elf_light_skin_tone", [0x1F9DD, 0x1F3FB, 0x200D, 0x2642, 0xFE0F]),
      ("man_mage_dark_skin_tone", [0x1F9D9, 0x1F3FF, 0x200D, 0x2642, 0xFE0F]),
      ("mermaid_light_skin_tone", [0x1F9DC, 0x1F3FB, 0x200D, 0x2640, 0xFE0F]),
      ("merman_medium_skin_tone", [0x1F9DC, 0x1F3FD, 0x200D, 0x2642, 0xFE0F]),
      ("mobile_phone_with_arrow", [0x1F4F2]), ("ok_hand_light_skin_tone", [0x1F44C, 0x1F3FB]),
      ("old_man_light_skin_tone", [0x1F474, 0x1F3FB]),
      ("palestinian_territories", [0x1F1F5, 0x1F1F8]), ("person_playing_handball", [0x1F93E]),
      ("prince_medium_skin_tone", [0x1F934, 0x1F3FD]),
      ("princess_dark_skin_tone", [0x1F478, 0x1F3FF]), ("put_litter_in_its_place", [0x1F6AE]),
      ("red_triangle_pointed_up", [0x1F53A]), ("running_shirt_with_sash", [0x1F3BD]),
      ("selfie_medium_skin_tone", [0x1F933, 0x1F3FD]), ("small_red_triangle_down", [0x1F53B]),
      ("smiling_face_with_horns", [0x1F608]), ("triangular_flag_on_post", [0x1F6A9]),
      ("two_women_holding_hands", [0x1F46D]), ("vampire_light_skin_tone", [0x1F9DB, 0x1F3FB]),
      ("woman_in_lotus_position", [0x1F9D8, 0x200D, 0x2640, 0xFE0F]),
      ("woman_with_probing_cane", [0x1F469, 0x200D, 0x1F9AF])],
    [("bottle_with_popping_cork", [0x1F37E]), ("central_african_republic", [0x1F1E8, 0x1F1EB]),
      ("chart_with_upwards_trend", [0x1F4C8]), ("detective_dark_skin_tone", [0x1F575, 0x1F3FF]),
      ("downcast_face_with_sweat", [0x1F613]), ("eight_pointed_black_star", [0x2734]),
      ("face_with_raised_eyebrow", [0x1F928]),
      ("family_man_man_girl_girl", [0x1F468, 0x200D, 0x1F468, 0x200D, 0x1F467, 0x200D, 0x1F467]),
      ("family_man_woman_boy_boy", [0x1F468, 0x200D, 0x1F469, 0x200D, 0x1F466, 0x200D, 0x1F466]),
      ("flag_for_ceuta_&_melilla", [0x1F1EA, 0x1F1E6]),
      ("flag_for_solomon_islands", [0x1F1F8, 0x1F1E7]),
      ("flag_for_wallis_&_futuna", [0x1F1FC, 0x1F1EB]), ("grinning_face_with_sweat", [0x1F605]),
      ("heard_&_mcdonald_islands", [0x1F1ED, 0x1F1F2]), ("horizontal_traffic_light", [0x1F6A5]),
      ("japanese_discount_button", [0x1F239]), ("japanese_reserved_button", [0x1F22F]),
      ("left_arrow_curving_right", [0x21AA]), ("lower_left_ballpoint_pen", [0x1F58A]),
      ("man_cook_light_skin_tone", [0x1F468, 0x1F3FB, 0x200D, 0x1F373]),
      ("man_elf_medium_skin_tone", [0x1F9DD, 0x1F3FD, 0x200D, 0x2642, 0xFE0F]),
      ("man_fairy_dark_skin_tone", [0x1F9DA, 0x1F3FF, 0x200D, 0x2642, 0xFE0F]),
      ("man_guard_dark_skin_tone", [0x1F482, 0x1F3FF, 0x200D, 0x2642, 0xFE0F]),
      ("man_in_manual_wheelchair", [0x1F468, 0x200D, 0x1F9BD]),
      ("man_judge_dark_skin_tone", [0x1F468, 0x1F3FF, 0x200D, 0x2696, 0xFE0F]),
      ("man_mage_light_skin_tone", [0x1F9D9, 0x1F3FB, 0x200D, 0x2642, 0xFE0F]),
      ("man_pilot_dark_skin_tone", [0x1F468, 0x1F3FF, 0x200D, 0x2708, 0xFE0F]),
      ("mermaid_medium_skin_tone", [0x1F9DC, 0x1F3FD, 0x200D, 0x2640, 0xFE0F]),
      ("merperson_dark_skin_tone", [0x1F9DC, 0x1F3FF]),
      ("northern_mariana_islands", [0x1F1F2, 0x1F1F5]),
      ("ok_hand_medium_skin_tone", [0x1F44C, 0x1F3FD]),
      ("old_man_medium_skin_tone", [0x1F474, 0x1F3FD]),
      ("old_woman_dark_skin_tone", [0x1F475, 0x1F3FF]), ("person_in_lotus_position", [0x1F9D8]),
      ("person_with_pouting_face", [0x1F64E]), ("princess_light_skin_tone", [0x1F478, 0x1F3FB]),
      ("right_arrow_curving_down", [0x2935]), ("right_arrow_curving_left", [0x21A9]),
      ("st._vincent_&_grenadines", [0x1F1FB, 0x1F1E8]),
      ("thumbs_up_dark_skin_tone", [0x1F44D, 0x1F3FF]), ("umbrella_with_rain_drops", [0x2614]),
      ("vampire_medium_skin_tone", [0x1F9DB, 0x1F3FD]), ("winking_face_with_tongue", [0x1F61C]),
      ("woman_elf_dark_skin_tone", [0x1F9DD, 0x1F3FF, 0x200D, 0x2640, 0xFE0F]),
      ("woman_playing_water_polo", [0x1F93D, 0x200D, 0x2640, 0xFE0F])]]

def codesTo32 : List (List (String × List Nat)) :=
  [[("baby_angel_dark_skin_tone", [0x1F47C, 0x1F3FF]), ("black_medium-small_square", [0x25FE]),
      ("black_medium_small_square", [0x25FE]), ("boy_medium-dark_skin_tone", [0x1F466, 0x1F3FE]),
      ("chart_increasing_with_yen", [0x1F4B9]), ("clockwise_vertical_arrows", [0x1F503]),
      ("couple_with_heart_man_man", [0x1F468, 0x200D, 0x2764, 0xFE0F, 0x200D, 0x1F468]),
      ("detective_light_skin_tone", [0x1F575, 0x1F3FB]),
      ("ear_medium-dark_skin_tone", [0x1F442, 0x1F3FE]),
      ("elf_medium-dark_skin_tone", [0x1F9DD, 0x1F3FE]), ("exclamation_question_mark", [0x2049]),
      ("face_with_hand_over_mouth", [0x1F92D]), ("face_with_steam_from_nose", [0x1F624]),
      ("family_man_woman_girl_boy", [0x1F468, 0x200D, 0x1F469, 0x200D, 0x1F467, 0x200D, 0x1F466]),
      ("flag_for_ascension_island", [0x1F1E6, 0x1F1E8]),
      ("flag_for_christmas_island", [0x1F1E8, 0x1F1FD]),
      ("flag_for_falkland_islands", [0x1F1EB, 0x1F1F0]),
      ("flag_for_french_polynesia", [0x1F1F5, 0x1F1EB]),
      ("flag_for_marshall_islands", [0x1F1F2, 0x1F1ED]),
      ("flag_for_papua_new_guinea", [0x1F1F5, 0x1F1EC]),
      ("flag_for_pitcairn_islands", [0x1F1F5, 0x1F1F3]),
      ("flag_for_tristan_da_cunha", [0x1F1F9, 0x1F1E6]), ("fork_and_knife_with_plate", [0x1F37D]),
      ("hand_with_fingers_splayed", [0x1F590]), ("ice_hockey_stick_and_puck", [0x1F3D2]),
      ("leftwards_arrow_with_hook", [0x21A9]),
      ("man_artist_dark_skin_tone", [0x1F468, 0x1F3FF, 0x200D, 0x1F3A8]),
      ("man_biking_dark_skin_tone", [0x1F6B4, 0x1F3FF, 0x200D, 0x2642, 0xFE0F]),
      ("man_bowing_dark_skin_tone", [0x1F647, 0x1F3FF, 0x200D, 0x2642, 0xFE0F]),
      ("man_cook_medium_skin_tone", [0x1F468, 0x1F3FD, 0x200D, 0x1F373]),
      ("man_fairy_light_skin_tone", [0x1F9DA, 0x1F3FB, 0x200D, 0x2642, 0xFE0F]),
      ("man_farmer_dark_skin_tone", [0x1F468, 0x1F3FF, 0x200D, 0x1F33E]),
      ("man_guard_light_skin_tone", [0x1F482, 0x1F3FB, 0x200D, 0x2642, 0xFE0F]),
      ("man_judge_light_skin_tone", [0x1F468, 0x1F3FB, 0x200D, 0x2696, 0xFE0F]),
      ("man_mage_medium_skin_tone", [0x1F9D9, 0x1F3FD, 0x200D, 0x2642, 0xFE0F]),
      ("man_medium-dark_skin_tone", [0x1F468, 0x1F3FE]),
      ("man_pilot_light_skin_tone", [0x1F468, 0x1F3FB, 0x200D, 0x2708, 0xFE0F]),
      ("man_singer_dark_skin_tone", [0x1F468, 0x1F3FF, 0x200D, 0x1F3A4]),
      ("merperson_light_skin_tone", [0x1F9DC, 0x1F3FB]),
      ("mrs._claus_dark_skin_tone", [0x1F936, 0x1F3FF]),
      ("old_woman_light_skin_tone", [0x1F475, 0x1F3FB]),
      ("open_hands_dark_skin_tone", [0x1F450, 0x1F3FF]), ("person_playing_water_polo", [0x1F93D]),
      ("princess_medium_skin_tone", [0x1F478, 0x1F3FD]), ("red_triangle_pointed_down", [0x1F53B]),
      ("thumbs_up_light_skin_tone", [0x1F44D, 0x1F3FB]), ("twisted_rightwards_arrows", [0x1F500]),
      ("white_medium-small_square", [0x25FD]), ("white_medium_small_square", [0x25FD]),
      ("woman_construction_worker", [0x1F477, 0x200D, 0x2640, 0xFE0F]),
      ("woman_cook_dark_skin_tone", [0x1F469, 0x1F3FF, 0x200D, 0x1F373]),
      ("woman_elf_light_skin_tone", [0x1F9DD, 0x1F3FB, 0x200D, 0x2640, 0xFE0F]),
      ("woman_mage_dark_skin_tone", [0x1F9D9, 0x1F3FF, 0x200D, 0x2640, 0xFE0F])],
    [("baby_angel_light_skin_tone", [0x1F47C, 0x1F3FB]),
      ("baby_medium-dark_skin_tone", [0x1F476, 0x1F3FE]),
      ("backhand_index_pointing_up", [0x1F446]),
      ("boy_medium-light_skin_tone", [0x1F466, 0x1F3FC]),
      ("cat_face_with_tears_of_joy", [0x1F639]), ("chart_with_downwards_trend", [0x1F4C9]),
      ("detective_medium_skin_tone", [0x1F575, 0x1F3FD]),
      ("ear_medium-light_skin_tone", [0x1F442, 0x1F3FC]),
      ("elf_medium-light_skin_tone", [0x1F9DD, 0x1F3FC]),
      ("face_with_symbols_on_mouth", [0x1F92C]),
      ("family_man_woman_girl_girl", [0x1F468, 0x200D, 0x1F469, 0x200D, 0x1F467, 0x200D, 0x1F467]),
      ("family_woman_woman_boy_boy", [0x1F469, 0x200D, 0x1F469, 0x200D, 0x1F466, 0x200D, 0x1F466]),
      ("flag_for_antigua_&_barbuda", [0x1F1E6, 0x1F1EC]),
      ("flag_for_clipperton_island", [0x1F1E8, 0x1F1F5]),
      ("flag_for_congo____kinshasa", [0x1F1E8, 0x1F1E9]),
      ("flag_for_equatorial_guinea", [0x1F1EC, 0x1F1F6]),
      ("flag_for_st._kitts_&_nevis", [0x1F1F0, 0x1F1F3]),
      ("flag_for_trinidad_&_tobago", [0x1F1F9, 0x1F1F9]),
      ("girl_medium-dark_skin_tone", [0x1F467, 0x1F3FE]),
      ("japanese_acceptable_button", [0x1F251]), ("japanese_no_vacancy_button", [0x1F235]),
      ("japanese_prohibited_button", [0x1F232]),
      ("mage_medium-dark_skin_tone", [0x1F9D9, 0x1F3FE]),
      ("man_artist_light_skin_tone", [0x1F468, 0x1F3FB, 0x200D, 0x1F3A8]),
      ("man_biking_light_skin_tone", [0x1F6B4, 0x1F3FB, 0x200D, 0x2642, 0xFE0F]),
      ("man_bowing_light_skin_tone", [0x1F647, 0x1F3FB, 0x200D, 0x2642, 0xFE0F]),
      ("man_dancing_dark_skin_tone", [0x1F57A, 0x1F3FF]),
      ("man_fairy_medium_skin_tone", [0x1F9DA, 0x1F3FD, 0x200D, 0x2642, 0xFE0F]),
      ("man_farmer_light_skin_tone", [0x1F468, 0x1F3FB, 0x200D, 0x1F33E]),
      ("man_golfing_dark_skin_tone", [0x1F3CC, 0x1F3FF, 0x200D, 0x2642, 0xFE0F]),
      ("man_guard_medium_skin_tone", [0x1F482, 0x1F3FD, 0x200D, 0x2642, 0xFE0F]),
      ("man_judge_medium_skin_tone", [0x1F468, 0x1F3FD, 0x200D, 0x2696, 0xFE0F]),
      ("man_medium-light_skin_tone", [0x1F468, 0x1F3FC]),
      ("man_pilot_medium_skin_tone", [0x1F468, 0x1F3FD, 0x200D, 0x2708, 0xFE0F]),
      ("man_pouting_dark_skin_tone", [0x1F64E, 0x1F3FF, 0x200D, 0x2642, 0xFE0F]),
      ("man_running_dark_skin_tone", [0x1F3C3, 0x1F3FF, 0x200D, 0x2642, 0xFE0F]),
      ("man_singer_light_skin_tone", [0x1F468, 0x1F3FB, 0x200D, 0x1F3A4]),
      ("man_student_dark_skin_tone", [0x1F468, 0x1F3FF, 0x200D, 0x1F393]),
      ("man_surfing_dark_skin_tone", [0x1F3C4, 0x1F3FF, 0x200D, 0x2642, 0xFE0F]),
      ("man_teacher_dark_skin_tone", [0x1F468, 0x1F3FF, 0x200D, 0x1F3EB]),
      ("man_vampire_dark_skin_tone", [0x1F9DB, 0x1F3FF, 0x200D, 0x2642, 0xFE0F]),
      ("man_walking_dark_skin_tone", [0x1F6B6, 0x1F3FF, 0x200D, 0x2642, 0xFE0F]),
      ("menorah_with_nine_branches", [0x1F54E]),
      ("merperson_medium_skin_tone", [0x1F9DC, 0x1F3FD]),
      ("mrs._claus_light_skin_tone", [0x1F936, 0x1F3FB]),
      ("nail_polish_dark_skin_tone", [0x1F485, 0x1F3FF]),
      ("nose_medium-dark_skin_tone", [0x1F443, 0x1F3FE]),
      ("old_woman_medium_skin_tone", [0x1F475, 0x1F3FD]),
      ("older_adult_dark_skin_tone", [0x1F9D3, 0x1F3FF]),
      ("open_hands_light_skin_tone", [0x1F450, 0x1F3FB]),
      ("raised_fist_dark_skin_tone", [0x270A, 0x1F3FF]),
      ("raised_hand_dark_skin_tone", [0x270B, 0x1F3FF]),
      ("santa_claus_dark_skin_tone", [0x1F385, 0x1F3FF]),
      ("smiling_face_with_3_hearts", [0x1F970]),
      ("snowboarder_dark_skin_tone", [0x1F3C2, 0x1F3FF]),
      ("squinting_face_with_tongue", [0x1F61D]),
      ("thumbs_down_dark_skin_tone", [0x1F44E, 0x1F3FF]),
      ("thumbs_up_medium_skin_tone", [0x1F44D, 0x1F3FD]),
      ("waving_hand_dark_skin_tone", [0x1F44B, 0x1F3FF]),
      ("white_sun_with_small_cloud", [0x1F324]),
      ("woman_cook_light_skin_tone", [0x1F469, 0x1F3FB, 0x200D, 0x1F373]),
      ("woman_elf_medium_skin_tone", [0x1F9DD, 0x1F3FD, 0x200D, 0x2640, 0xFE0F]),
      ("woman_fairy_dark_skin_tone", [0x1F9DA, 0x1F3FF, 0x200D, 0x2640, 0xFE0F]),
      ("woman_guard_dark_skin_tone", [0x1F482, 0x1F3FF, 0x200D, 0x2640, 0xFE0F]),
      ("woman_in_manual_wheelchair", [0x1F469, 0x200D, 0x1F9BD]),
      ("woman_judge_dark_skin_tone", [0x1F469, 0x1F3FF, 0x200D, 0x2696, 0xFE0F]),
      ("woman_mage_light_skin_tone", [0x1F9D9, 0x1F3FB, 0x200D, 0x2640, 0xFE0F]),
      ("woman_pilot_dark_skin_tone", [0x1F469, 0x1F3FF, 0x200D, 0x2708, 0xFE0F])],
    [("adult_medium-dark_skin_tone", [0x1F9D1, 0x1F3FE]),
      ("baby_angel_medium_skin_tone", [0x1F47C, 0x1F3FD]),
      ("baby_medium-light_skin_tone", [0x1F476, 0x1F3FC]),
      ("call_me_hand_dark_skin_tone", [0x1F919, 0x1F3FF]),
      ("child_medium-dark_skin_tone", [0x1F9D2, 0x1F3FE]),
      ("couple_with_heart_woman_man", [0x1F469, 0x200D, 0x2764, 0xFE0F, 0x200D, 0x1F468]),
      ("fairy_medium-dark_skin_tone", [0x1F9DA, 0x1F3FE]),
      ("family_woman_woman_girl_boy", [0x1F469, 0x200D, 0x1F469, 0x200D, 0x1F467, 0x200D, 0x1F466]),
      ("field_hockey_stick_and_ball", [0x1F3D1]),
      ("flag_for_dominican_republic", [0x1F1E9, 0x1F1F4]),
      ("folded_hands_dark_skin_tone", [0x1F64F, 0x1F3FF]),
      ("french_southern_territories", [0x1F1F9, 0x1F1EB]),
      ("girl_medium-light_skin_tone", [0x1F467, 0x1F3FC]),
      ("globe_showing_europe-africa", [0x1F30D]), ("grinning_face_with_big_eyes", [0x1F603]),
      ("guard_medium-dark_skin_tone", [0x1F482, 0x1F3FE]),
      ("horse_racing_dark_skin_tone", [0x1F3C7, 0x1F3FF]),
      ("japanese_application_button", [0x1F238]), ("last_quarter_moon_with_face", [0x1F31C]),
      ("mage_medium-light_skin_tone", [0x1F9D9, 0x1F3FC]),
      ("man_and_woman_holding_hands", [0x1F46B]),
      ("man_artist_medium_skin_tone", [0x1F468, 0x1F3FD, 0x200D, 0x1F3A8]),
      ("man_biking_medium_skin_tone", [0x1F6B4, 0x1F3FD, 0x200D, 0x2642, 0xFE0F]),
      ("man_bowing_medium_skin_tone", [0x1F647, 0x1F3FD, 0x200D, 0x2642, 0xFE0F]),
      ("man_climbing_dark_skin_tone", [0x1F9D7, 0x1F3FF, 0x200D, 0x2642, 0xFE0F]),
      ("man_dancing_light_skin_tone", [0x1F57A, 0x1F3FB]),
      ("man_farmer_medium_skin_tone", [0x1F468, 0x1F3FD, 0x200D, 0x1F33E]),
      ("man_frowning_dark_skin_tone", [0x1F64D, 0x1F3FF, 0x200D, 0x2642, 0xFE0F]),
      ("man_golfing_light_skin_tone", [0x1F3CC, 0x1F3FB, 0x200D, 0x2642, 0xFE0F]),
      ("man_in_motorized_wheelchair", [0x1F468, 0x200D, 0x1F9BC]),
      ("man_juggling_dark_skin_tone", [0x1F939, 0x1F3FF, 0x200D, 0x2642, 0xFE0F]),
      ("man_mechanic_dark_skin_tone", [0x1F468, 0x1F3FF, 0x200D, 0x1F527]),
      ("man_pouting_light_skin_tone", [0x1F64E, 0x1F3FB, 0x200D, 0x2642, 0xFE0F]),
      ("man_running_light_skin_tone", [0x1F3C3, 0x1F3FB, 0x200D, 0x2642, 0xFE0F]),
      ("man_singer_medium_skin_tone", [0x1F468, 0x1F3FD, 0x200D, 0x1F3A4]),
      ("man_student_light_skin_tone", [0x1F468, 0x1F3FB, 0x200D, 0x1F393]),
      ("man_surfing_light_skin_tone", [0x1F3C4, 0x1F3FB, 0x200D, 0x2642, 0xFE0F]),
      ("man_swimming_dark_skin_tone", [0x1F3CA, 0x1F3FF, 0x200D, 0x2642, 0xFE0F]),
      ("man_teacher_light_skin_tone", [0x1F468, 0x1F3FB, 0x200D, 0x1F3EB]),
      ("man_vampire_light_skin_tone", [0x1F9DB, 0x1F3FB, 0x200D, 0x2642, 0xFE0F]),
      ("man_walking_light_skin_tone", [0x1F6B6, 0x1F3FB, 0x200D, 0x2642, 0xFE0F]),
      ("mrs._claus_medium_skin_tone", [0x1F936, 0x1F3FD]),
      ("nail_polish_light_skin_tone", [0x1F485, 0x1F3FB]),
      ("negative_squared_cross_mark", [0x274E]),
      ("nose_medium-light_skin_tone", [0x1F443, 0x1F3FC]),
      ("older_adult_light_skin_tone", [0x1F9D3, 0x1F3FB]),
      ("open_hands_medium_skin_tone", [0x1F450, 0x1F3FD]),
      ("raised_fist_light_skin_tone", [0x270A, 0x1F3FB]),
      ("raised_hand_light_skin_tone", [0x270B, 0x1F3FB]),
      ("santa_claus_light_skin_tone", [0x1F385, 0x1F3FB]),
      ("snowboarder_light_skin_tone", [0x1F3C2, 0x1F3FB]),
      ("speaking_head_in_silhouette", [0x1F5E3]),
      ("thumbs_down_light_skin_tone", [0x1F44E, 0x1F3FB]),
      ("victory_hand_dark_skin_tone", [0x270C, 0x1F3FF]),
      ("waving_hand_light_skin_tone", [0x1F44B, 0x1F3FB]),
      ("woman_artist_dark_skin_tone", [0x1F469, 0x1F3FF, 0x200D, 0x1F3A8]),
      ("woman_biking_dark_skin_tone", [0x1F6B4, 0x1F3FF, 0x200D, 0x2640, 0xFE0F]),
      ("woman_bowing_dark_skin_tone", [0x1F647, 0x1F3FF, 0x200D, 0x2640, 0xFE0F]),
      ("woman_cook_medium_skin_tone", [0x1F469, 0x1F3FD, 0x200D, 0x1F373]),
      ("woman_fairy_light_skin_tone", [0x1F9DA, 0x1F3FB, 0x200D, 0x2640, 0xFE0F]),
      ("woman_farmer_dark_skin_tone", [0x1F469, 0x1F3FF, 0x200D, 0x1F33E]),
      ("woman_guard_light_skin_tone", [0x1F482, 0x1F3FB, 0x200D, 0x2640, 0xFE0F]),
      ("woman_judge_light_skin_tone", [0x1F469, 0x1F3FB, 0x200D, 0x2696, 0xFE0F]),
      ("woman_mage_medium_skin_tone", [0x1F9D9, 0x1F3FD, 0x200D, 0x2640, 0xFE0F]),
      ("woman_medium-dark_skin_tone", [0x1F469, 0x1F3FE]),
      ("woman_pilot_light_skin_tone", [0x1F469, 0x1F3FB, 0x200D, 0x2708, 0xFE0F]),
      ("woman_singer_dark_skin_tone", [0x1F469, 0x1F3FF, 0x200D, 0x1F3A4]),
      ("writing_hand_dark_skin_tone", [0x270D, 0x1F3FF])],
    [("adult_medium-light_skin_tone", [0x1F9D1, 0x1F3FC]),
      ("backhand_index_pointing_down", [0x1F447]), ("backhand_index_pointing_left", [0x1F448]),
      ("call_me_hand_light_skin_tone", [0x1F919, 0x1F3FB]),
      ("child_medium-light_skin_tone", [0x1F9D2, 0x1F3FC]),
      ("fairy_medium-light_skin_tone", [0x1F9DA, 0x1F3FC]),
      ("family_woman_woman_girl_girl",
        [0x1F469, 0x200D, 0x1F469, 0x200D, 0x1F467, 0x200D, 0x1F467]),
      ("first_quarter_moon_with_face", [0x1F31B]),
      ("flag_for_são_tomé_&_príncipe", [0x1F1F8, 0x1F1F9]),
      ("flag_for_u.s._virgin_islands", [0x1F1FB, 0x1F1EE]),
      ("flexed_biceps_dark_skin_tone", [0x1F4AA, 0x1F3FF]),
      ("folded_hands_light_skin_tone", [0x1F64F, 0x1F3FB]),
      ("globe_showing_asia-australia", [0x1F30F]),
      ("guard_medium-light_skin_tone", [0x1F482, 0x1F3FC]),
      ("horse_racing_light_skin_tone", [0x1F3C7, 0x1F3FB]),
      ("japanese_symbol_for_beginner", [0x1F530]), ("magnifying_glass_tilted_left", [0x1F50D]),
      ("man_astronaut_dark_skin_tone", [0x1F468, 0x1F3FF, 0x200D, 0x1F680]),
      ("man_climbing_light_skin_tone", [0x1F9D7, 0x1F3FB, 0x200D, 0x2642, 0xFE0F]),
      ("man_dancing_medium_skin_tone", [0x1F57A, 0x1F3FD]),
      ("man_detective_dark_skin_tone", [0x1F575, 0x1F3FF, 0x200D, 0x2642, 0xFE0F]),
      ("man_frowning_light_skin_tone", [0x1F64D, 0x1F3FB, 0x200D, 0x2642, 0xFE0F]),
      ("man_golfing_medium_skin_tone", [0x1F3CC, 0x1F3FD, 0x200D, 0x2642, 0xFE0F]),
      ("man_in_tuxedo_dark_skin_tone", [0x1F935, 0x1F3FF]),
      ("man_juggling_light_skin_tone", [0x1F939, 0x1F3FB, 0x200D, 0x2642, 0xFE0F]),
      ("man_mechanic_light_skin_tone", [0x1F468, 0x1F3FB, 0x200D, 0x1F527]),
      ("man_pouting_medium_skin_tone", [0x1F64E, 0x1F3FD, 0x200D, 0x2642, 0xFE0F]),
      ("man_running_medium_skin_tone", [0x1F3C3, 0x1F3FD, 0x200D, 0x2642, 0xFE0F]),
      ("man_scientist_dark_skin_tone", [0x1F468, 0x1F3FF, 0x200D, 0x1F52C]),
      ("man_shrugging_dark_skin_tone", [0x1F937, 0x1F3FF, 0x200D, 0x2642, 0xFE0F]),
      ("man_student_medium_skin_tone", [0x1F468, 0x1F3FD, 0x200D, 0x1F393]),
      ("man_surfing_medium_skin_tone", [0x1F3C4, 0x1F3FD, 0x200D, 0x2642, 0xFE0F]),
      ("man_swimming_light_skin_tone", [0x1F3CA, 0x1F3FB, 0x200D, 0x2642, 0xFE0F]),
      ("man_teacher_medium_skin_tone", [0x1F468, 0x1F3FD, 0x200D, 0x1F3EB]),
      ("man_vampire_medium_skin_tone", [0x1F9DB, 0x1F3FD, 0x200D, 0x2642, 0xFE0F]),
      ("man_walking_medium_skin_tone", [0x1F6B6, 0x1F3FD, 0x200D, 0x2642, 0xFE0F]),
      ("merman_medium-dark_skin_tone", [0x1F9DC, 0x1F3FE, 0x200D, 0x2642, 0xFE0F]),
      ("middle_finger_dark_skin_tone", [0x1F595, 0x1F3FF]),
      ("nail_polish_medium_skin_tone", [0x1F485, 0x1F3FD]),
      ("older_adult_medium_skin_tone", [0x1F9D3, 0x1F3FD]),
      ("oncoming_fist_dark_skin_tone", [0x1F44A, 0x1F3FF]),
      ("person_biking_dark_skin_tone", [0x1F6B4, 0x1F3FF]),
      ("person_bowing_dark_skin_tone", [0x1F647, 0x1F3FF]),
      ("person_in_bed_dark_skin_tone", [0x1F6CC, 0x1F3FF]),
      ("prince_medium-dark_skin_tone", [0x1F934, 0x1F3FE]),
      ("raised_fist_medium_skin_tone", [0x270A, 0x1F3FD]),
      ("raised_hand_medium_skin_tone", [0x270B, 0x1F3FD]),
      ("raising_hands_dark_skin_tone", [0x1F64C, 0x1F3FF]),
      ("santa_claus_medium_skin_tone", [0x1F385, 0x1F3FD]),
      ("selfie_medium-dark_skin_tone", [0x1F933, 0x1F3FE]),
      ("smiling_face_with_heart-eyes", [0x1F60D]), ("smiling_face_with_sunglasses", [0x1F60E]),
      ("snowboarder_medium_skin_tone", [0x1F3C2, 0x1F3FD]),
      ("stuck_out_tongue_closed_eyes", [0x1F61D]), ("stuck_out_tongue_winking_eye", [0x1F61C]),
      ("table_tennis_paddle_and_ball", [0x1F3D3]),
      ("thumbs_down_medium_skin_tone", [0x1F44E, 0x1F3FD]),
      ("victory_hand_light_skin_tone", [0x270C, 0x1F3FB]),
      ("vulcan_salute_dark_skin_tone", [0x1F596, 0x1F3FF]),
      ("waving_hand_medium_skin_tone", [0x1F44B, 0x1F3FD]),
      ("woman_artist_light_skin_tone", [0x1F469, 0x1F3FB, 0x200D, 0x1F3A8]),
      ("woman_biking_light_skin_tone", [0x1F6B4, 0x1F3FB, 0x200D, 0x2640, 0xFE0F]),
      ("woman_bowing_light_skin_tone", [0x1F647, 0x1F3FB, 0x200D, 0x2640, 0xFE0F]),
      ("woman_dancing_dark_skin_tone", [0x1F483, 0x1F3FF]),
      ("woman_fairy_medium_skin_tone", [0x1F9DA, 0x1F3FD, 0x200D, 0x2640, 0xFE0F]),
      ("woman_farmer_light_skin_tone", [0x1F469, 0x1F3FB, 0x200D, 0x1F33E]),
      ("woman_golfing_dark_skin_tone", [0x1F3CC, 0x1F3FF, 0x200D, 0x2640, 0xFE0F]),
      ("woman_guard_medium_skin_tone", [0x1F482, 0x1F3FD, 0x200D, 0x2640, 0xFE0F]),
      ("woman_judge_medium_skin_tone", [0x1F469, 0x1F3FD, 0x200D, 0x2696, 0xFE0F]),
      ("woman_medium-light_skin_tone", [0x1F469, 0x1F3FC]),
      ("woman_pilot_medium_skin_tone", [0x1F469, 0x1F3FD, 0x200D, 0x2708, 0xFE0F]),
      ("woman_pouting_dark_skin_tone", [0x1F64E, 0x1F3FF, 0x200D, 0x2640, 0xFE0F]),
      ("woman_running_dark_skin_tone", [0x1F3C3, 0x1F3FF, 0x200D, 0x2640, 0xFE0F]),
      ("woman_singer_light_skin_tone", [0x1F469, 0x1F3FB, 0x200D, 0x1F3A4]),
      ("woman_student_dark_skin_tone", [0x1F469, 0x1F3FF, 0x200D, 0x1F393]),
      ("woman_surfing_dark_skin_tone", [0x1F3C4, 0x1F3FF, 0x200D, 0x2640, 0xFE0F]),
      ("woman_teacher_dark_skin_tone", [0x1F469, 0x1F3FF, 0x200D, 0x1F3EB]),
      ("woman_vampire_dark_skin_tone", [0x1F9DB, 0x1F3FF, 0x200D, 0x2640, 0xFE0F]),
      ("woman_walking_dark_skin_tone", [0x1F6B6, 0x1F3FF, 0x200D, 0x2640, 0xFE0F]),
      ("writing_hand_light_skin_tone", [0x270D, 0x1F3FB])],
    [("backhand_index_pointing_right", [0x1F449]),
      ("bearded_person_dark_skin_tone", [0x1F9D4, 0x1F3FF]),
      ("breast-feeding_dark_skin_tone", [0x1F931, 0x1F3FF]),
      ("call_me_hand_medium_skin_tone", [0x1F919, 0x1F3FD]),
      ("clapping_hands_dark_skin_tone", [0x1F44F, 0x1F3FF]),
      ("cloud_with_lightning_and_rain", [0x26C8]),
      ("couple_with_heart_woman_woman", [0x1F469, 0x200D, 0x2764, 0xFE0F, 0x200D, 0x1F469]),
      ("flag_for_bosnia_&_herzegovina", [0x1F1E7, 0x1F1E6]),
      ("flag_for_congo____brazzaville", [0x1F1E8, 0x1F1EC]),
      ("flag_for_svalbard_&_jan_mayen", [0x1F1F8, 0x1F1EF]),
      ("flag_for_united_arab_emirates", [0x1F1E6, 0x1F1EA]),
      ("flexed_biceps_light_skin_tone", [0x1F4AA, 0x1F3FB]),
      ("folded_hands_medium_skin_tone", [0x1F64F, 0x1F3FD]),
      ("frowning_face_with_open_mouth", [0x1F626]),
      ("horse_racing_medium_skin_tone", [0x1F3C7, 0x1F3FD]),
      ("japanese_passing_grade_button", [0x1F234]), ("kissing_face_with_closed_eyes", [0x1F61A]),
      ("magnifying_glass_tilted_right", [0x1F50E]),
      ("man_astronaut_light_skin_tone", [0x1F468, 0x1F3FB, 0x200D, 0x1F680]),
      ("man_climbing_medium_skin_tone", [0x1F9D7, 0x1F3FD, 0x200D, 0x2642, 0xFE0F]),
      ("man_detective_light_skin_tone", [0x1F575, 0x1F3FB, 0x200D, 0x2642, 0xFE0F]),
      ("man_elf_medium-dark_skin_tone", [0x1F9DD, 0x1F3FE, 0x200D, 0x2642, 0xFE0F]),
      ("man_frowning_medium_skin_tone", [0x1F64D, 0x1F3FD, 0x200D, 0x2642, 0xFE0F]),
      ("man_in_tuxedo_light_skin_tone", [0x1F935, 0x1F3FB]),
      ("man_juggling_medium_skin_tone", [0x1F939, 0x1F3FD, 0x200D, 0x2642, 0xFE0F]),
      ("man_mechanic_medium_skin_tone", [0x1F468, 0x1F3FD, 0x200D, 0x1F527]),
      ("man_scientist_light_skin_tone", [0x1F468, 0x1F3FB, 0x200D, 0x1F52C]),
      ("man_shrugging_light_skin_tone", [0x1F937, 0x1F3FB, 0x200D, 0x2642, 0xFE0F]),
      ("man_swimming_medium_skin_tone", [0x1F3CA, 0x1F3FD, 0x200D, 0x2642, 0xFE0F]),
      ("mermaid_medium-dark_skin_tone", [0x1F9DC, 0x1F3FE, 0x200D, 0x2640, 0xFE0F]),
      ("merman_medium-light_skin_tone", [0x1F9DC, 0x1F3FC, 0x200D, 0x2642, 0xFE0F]),
      ("middle_finger_light_skin_tone", [0x1F595, 0x1F3FB]),
      ("ok_hand_medium-dark_skin_tone", [0x1F44C, 0x1F3FE]),
      ("old_man_medium-dark_skin_tone", [0x1F474, 0x1F3FE]),
      ("oncoming_fist_light_skin_tone", [0x1F44A, 0x1F3FB]),
      ("open_mailbox_with_raised_flag", [0x1F4EC]),
      ("person_biking_light_skin_tone", [0x1F6B4, 0x1F3FB]),
      ("person_bowing_light_skin_tone", [0x1F647, 0x1F3FB]),
      ("person_golfing_dark_skin_tone", [0x1F3CC, 0x1F3FF]),
      ("person_in_bed_light_skin_tone", [0x1F6CC, 0x1F3FB]),
      ("person_pouting_dark_skin_tone", [0x1F64E, 0x1F3FF]),
      ("person_running_dark_skin_tone", [0x1F3C3, 0x1F3FF]),
      ("person_surfing_dark_skin_tone", [0x1F3C4, 0x1F3FF]),
      ("person_walking_dark_skin_tone", [0x1F6B6, 0x1F3FF]),
      ("police_officer_dark_skin_tone", [0x1F46E, 0x1F3FF]),
      ("pregnant_woman_dark_skin_tone", [0x1F930, 0x1F3FF]),
      ("prince_medium-light_skin_tone", [0x1F934, 0x1F3FC]),
      ("raising_hands_light_skin_tone", [0x1F64C, 0x1F3FB]),
      ("rolling_on_the_floor_laughing", [0x1F923]),
      ("selfie_medium-light_skin_tone", [0x1F933, 0x1F3FC]),
      ("vampire_medium-dark_skin_tone", [0x1F9DB, 0x1F3FE]),
      ("victory_hand_medium_skin_tone", [0x270C, 0x1F3FD]),
      ("vulcan_salute_light_skin_tone", [0x1F596, 0x1F3FB]),
      ("woman_artist_medium_skin_tone", [0x1F469, 0x1F3FD, 0x200D, 0x1F3A8]),
      ("woman_biking_medium_skin_tone", [0x1F6B4, 0x1F3FD, 0x200D, 0x2640, 0xFE0F]),
      ("woman_bowing_medium_skin_tone", [0x1F647, 0x1F3FD, 0x200D, 0x2640, 0xFE0F]),
      ("woman_climbing_dark_skin_tone", [0x1F9D7, 0x1F3FF, 0x200D, 0x2640, 0xFE0F]),
      ("woman_dancing_light_skin_tone", [0x1F483, 0x1F3FB]),
      ("woman_farmer_medium_skin_tone", [0x1F469, 0x1F3FD, 0x200D, 0x1F33E]),
      ("woman_frowning_dark_skin_tone", [0x1F64D, 0x1F3FF, 0x200D, 0x2640, 0xFE0F]),
      ("woman_golfing_light_skin_tone", [0x1F3CC, 0x1F3FB, 0x200D, 0x2640, 0xFE0F]),
      ("woman_in_motorized_wheelchair", [0x1F469, 0x200D, 0x1F9BC]),
      ("woman_juggling_dark_skin_tone", [0x1F939, 0x1F3FF, 0x200D, 0x2640, 0xFE0F]),
      ("woman_mechanic_dark_skin_tone", [0x1F469, 0x1F3FF, 0x200D, 0x1F527]),
      ("woman_pouting_light_skin_tone", [0x1F64E, 0x1F3FB, 0x200D, 0x2640, 0xFE0F]),
      ("woman_running_light_skin_tone", [0x1F3C3, 0x1F3FB, 0x200D, 0x2640, 0xFE0F]),
      ("woman_singer_medium_skin_tone", [0x1F469, 0x1F3FD, 0x200D, 0x1F3A4]),
      ("woman_student_light_skin_tone", [0x1F469, 0x1F3FB, 0x200D, 0x1F393]),
      ("woman_surfing_light_skin_tone", [0x1F3C4, 0x1F3FB, 0x200D, 0x2640, 0xFE0F]),
      ("woman_swimming_dark_skin_tone", [0x1F3CA, 0x1F3FF, 0x200D, 0x2640, 0xFE0F]),
      ("woman_teacher_light_skin_tone", [0x1F469, 0x1F3FB, 0x200D, 0x1F3EB]),
      ("woman_vampire_light_skin_tone", [0x1F9DB, 0x1F3FB, 0x200D, 0x2640, 0xFE0F]),
      ("woman_walking_light_skin_tone", [0x1F6B6, 0x1F3FB, 0x200D, 0x2640, 0xFE0F]),
      ("writing_hand_medium_skin_tone", [0x270D, 0x1F3FD])],
    [("beaming_face_with_smiling_eyes", [0x1F601]),
      ("bearded_person_light_skin_tone", [0x1F9D4, 0x1F3FB]),
      ("breast-feeding_light_skin_tone", [0x1F931, 0x1F3FB]),
      ("bride_with_veil_dark_skin_tone", [0x1F470, 0x1F3FF]),
      ("british_indian_ocean_territory", [0x1F1EE, 0x1F1F4]),
      ("clapping_hands_light_skin_tone", [0x1F44F, 0x1F3FB]),
      ("counterclockwise_arrows_button", [0x1F504]),
      ("crossed_fingers_dark_skin_tone", [0x1F91E, 0x1F3FF]),
      ("flag_for_caribbean_netherlands", [0x1F1E7, 0x1F1F6]),
      ("flag_for_st._pierre_&_miquelon", [0x1F1F5, 0x1F1F2]),
      ("flag_for_u.s._outlying_islands", [0x1F1FA, 0x1F1F2]),
      ("flexed_biceps_medium_skin_tone", [0x1F4AA, 0x1F3FD]),
      ("japanese_free_of_charge_button", [0x1F21A]), ("japanese_monthly_amount_button", [0x1F237]),
      ("japanese_service_charge_button", [0x1F202]), ("kissing_face_with_smiling_eyes", [0x1F619]),
      ("man_astronaut_medium_skin_tone", [0x1F468, 0x1F3FD, 0x200D, 0x1F680]),
      ("man_cook_medium-dark_skin_tone", [0x1F468, 0x1F3FE, 0x200D, 0x1F373]),
      ("man_detective_medium_skin_tone", [0x1F575, 0x1F3FD, 0x200D, 0x2642, 0xFE0F]),
      ("man_elf_medium-light_skin_tone", [0x1F9DD, 0x1F3FC, 0x200D, 0x2642, 0xFE0F]),
      ("man_facepalming_dark_skin_tone", [0x1F926, 0x1F3FF, 0x200D, 0x2642, 0xFE0F]),
      ("man_firefighter_dark_skin_tone", [0x1F468, 0x1F3FF, 0x200D, 0x1F692]),
      ("man_in_tuxedo_medium_skin_tone", [0x1F935, 0x1F3FD]),
      ("man_mage_medium-dark_skin_tone", [0x1F9D9, 0x1F3FE, 0x200D, 0x2642, 0xFE0F]),
      ("man_rowing_boat_dark_skin_tone", [0x1F6A3, 0x1F3FF, 0x200D, 0x2642, 0xFE0F]),
      ("man_scientist_medium_skin_tone", [0x1F468, 0x1F3FD, 0x200D, 0x1F52C]),
      ("man_shrugging_medium_skin_tone", [0x1F937, 0x1F3FD, 0x200D, 0x2642, 0xFE0F]),
      ("mermaid_medium-light_skin_tone", [0x1F9DC, 0x1F3FC, 0x200D, 0x2640, 0xFE0F]),
      ("middle_finger_medium_skin_tone", [0x1F595, 0x1F3FD]),
      ("notebook_with_decorative_cover", [0x1F4D4]),
      ("ok_hand_medium-light_skin_tone", [0x1F44C, 0x1F3FC]),
      ("old_man_medium-light_skin_tone", [0x1F474, 0x1F3FC]),
      ("oncoming_fist_medium_skin_tone", [0x1F44A, 0x1F3FD]),
      ("open_mailbox_with_lowered_flag", [0x1F4ED]),
      ("person_biking_medium_skin_tone", [0x1F6B4, 0x1F3FD]),
      ("person_bowing_medium_skin_tone", [0x1F647, 0x1F3FD]),
      ("person_climbing_dark_skin_tone", [0x1F9D7, 0x1F3FF]),
      ("person_frowning_dark_skin_tone", [0x1F64D, 0x1F3FF]),
      ("person_golfing_light_skin_tone", [0x1F3CC, 0x1F3FB]),
      ("person_in_bed_medium_skin_tone", [0x1F6CC, 0x1F3FD]),
      ("person_juggling_dark_skin_tone", [0x1F939, 0x1F3FF]),
      ("person_pouting_light_skin_tone", [0x1F64E, 0x1F3FB]),
      ("person_running_light_skin_tone", [0x1F3C3, 0x1F3FB]),
      ("person_surfing_light_skin_tone", [0x1F3C4, 0x1F3FB]),
      ("person_swimming_dark_skin_tone", [0x1F3CA, 0x1F3FF]),
      ("person_walking_light_skin_tone", [0x1F6B6, 0x1F3FB]),
      ("police_officer_light_skin_tone", [0x1F46E, 0x1F3FB]),
      ("pregnant_woman_light_skin_tone", [0x1F930, 0x1F3FB]),
      ("princess_medium-dark_skin_tone", [0x1F478, 0x1F3FE]),
      ("raising_hands_medium_skin_tone", [0x1F64C, 0x1F3FD]),
      ("smiling_face_with_smiling_eyes", [0x1F60A]),
      ("vampire_medium-light_skin_tone", [0x1F9DB, 0x1F3FC]),
      ("vulcan_salute_medium_skin_tone", [0x1F596, 0x1F3FD]),
      ("woman_astronaut_dark_skin_tone", [0x1F469, 0x1F3FF, 0x200D, 0x1F680]),
      ("woman_climbing_light_skin_tone", [0x1F9D7, 0x1F3FB, 0x200D, 0x2640, 0xFE0F]),
      ("woman_dancing_medium_skin_tone", [0x1F483, 0x1F3FD]),
      ("woman_detective_dark_skin_tone", [0x1F575, 0x1F3FF, 0x200D, 0x2640, 0xFE0F]),
      ("woman_frowning_light_skin_tone", [0x1F64D, 0x1F3FB, 0x200D, 0x2640, 0xFE0F]),
      ("woman_golfing_medium_skin_tone", [0x1F3CC, 0x1F3FD, 0x200D, 0x2640, 0xFE0F]),
      ("woman_juggling_light_skin_tone", [0x1F939, 0x1F3FB, 0x200D, 0x2640, 0xFE0F]),
      ("woman_mechanic_light_skin_tone", [0x1F469, 0x1F3FB, 0x200D, 0x1F527]),
      ("woman_pouting_medium_skin_tone", [0x1F64E, 0x1F3FD, 0x200D, 0x2640, 0xFE0F]),
      ("woman_running_medium_skin_tone", [0x1F3C3, 0x1F3FD, 0x200D, 0x2640, 0xFE0F]),
      ("woman_scientist_dark_skin_tone", [0x1F469, 0x1F3FF, 0x200D, 0x1F52C]),
      ("woman_shrugging_dark_skin_tone", [0x1F937, 0x1F3FF, 0x200D, 0x2640, 0xFE0F]),
      ("woman_student_medium_skin_tone", [0x1F469, 0x1F3FD, 0x200D, 0x1F393]),
      ("woman_surfing_medium_skin_tone", [0x1F3C4, 0x1F3FD, 0x200D, 0x2640, 0xFE0F]),
      ("woman_swimming_light_skin_tone", [0x1F3CA, 0x1F3FB, 0x200D, 0x2640, 0xFE0F]),
      ("woman_teacher_medium_skin_tone", [0x1F469, 0x1F3FD, 0x200D, 0x1F3EB]),
      ("woman_vampire_medium_skin_tone", [0x1F9DB, 0x1F3FD, 0x200D, 0x2640, 0xFE0F]),
      ("woman_walking_medium_skin_tone", [0x1F6B6, 0x1F3FD, 0x200D, 0x2640, 0xFE0F])],
    [("bearded_person_medium_skin_tone", [0x1F9D4, 0x1F3FD]),
      ("blond-haired_man_dark_skin_tone", [0x1F471, 0x1F3FF, 0x200D, 0x2642, 0xFE0F]),
      ("breast-feeding_medium_skin_tone", [0x1F931, 0x1F3FD]),
      ("bride_with_veil_light_skin_tone", [0x1F470, 0x1F3FB]),
      ("clapping_hands_medium_skin_tone", [0x1F44F, 0x1F3FD]),
      ("closed_mailbox_with_raised_flag", [0x1F4EB]),
      ("crossed_fingers_light_skin_tone", [0x1F91E, 0x1F3FB]),
      ("detective_medium-dark_skin_tone", [0x1F575, 0x1F3FE]),
      ("diamond_shape_with_a_dot_inside", [0x1F4A0]),
      ("flag_for_british_virgin_islands", [0x1F1FB, 0x1F1EC]),
      ("flag_for_turks_&_caicos_islands", [0x1F1F9, 0x1F1E8]),
      ("grinning_face_with_smiling_eyes", [0x1F604]),
      ("japanese_congratulations_button", [0x3297]),
      ("left-facing_fist_dark_skin_tone", [0x1F91B, 0x1F3FF]),
      ("love-you_gesture_dark_skin_tone", [0x1F91F, 0x1F3FF]),
      ("man_cartwheeling_dark_skin_tone", [0x1F938, 0x1F3FF, 0x200D, 0x2642, 0xFE0F]),
      ("man_cook_medium-light_skin_tone", [0x1F468, 0x1F3FC, 0x200D, 0x1F373]),
      ("man_facepalming_light_skin_tone", [0x1F926, 0x1F3FB, 0x200D, 0x2642, 0xFE0F]),
      ("man_fairy_medium-dark_skin_tone", [0x1F9DA, 0x1F3FE, 0x200D, 0x2642, 0xFE0F]),
      ("man_firefighter_light_skin_tone", [0x1F468, 0x1F3FB, 0x200D, 0x1F692]),
      ("man_gesturing_no_dark_skin_tone", [0x1F645, 0x1F3FF, 0x200D, 0x2642, 0xFE0F]),
      ("man_gesturing_ok_dark_skin_tone", [0x1F646, 0x1F3FF, 0x200D, 0x2642, 0xFE0F]),
      ("man_guard_medium-dark_skin_tone", [0x1F482, 0x1F3FE, 0x200D, 0x2642, 0xFE0F]),
      ("man_in_business_suit_levitating", [0x1F574]),
      ("man_judge_medium-dark_skin_tone", [0x1F468, 0x1F3FE, 0x200D, 0x2696, 0xFE0F]),
      ("man_mage_medium-light_skin_tone", [0x1F9D9, 0x1F3FC, 0x200D, 0x2642, 0xFE0F]),
      ("man_pilot_medium-dark_skin_tone", [0x1F468, 0x1F3FE, 0x200D, 0x2708, 0xFE0F]),
      ("man_raising_hand_dark_skin_tone", [0x1F64B, 0x1F3FF, 0x200D, 0x2642, 0xFE0F]),
      ("man_rowing_boat_light_skin_tone", [0x1F6A3, 0x1F3FB, 0x200D, 0x2642, 0xFE0F]),
      ("man_technologist_dark_skin_tone", [0x1F468, 0x1F3FF, 0x200D, 0x1F4BB]),
      ("man_tipping_hand_dark_skin_tone", [0x1F481, 0x1F3FF, 0x200D, 0x2642, 0xFE0F]),
      ("merperson_medium-dark_skin_tone", [0x1F9DC, 0x1F3FE]),
      ("old_woman_medium-dark_skin_tone", [0x1F475, 0x1F3FE]),
      ("person_climbing_light_skin_tone", [0x1F9D7, 0x1F3FB]),
      ("person_frowning_light_skin_tone", [0x1F64D, 0x1F3FB]),
      ("person_golfing_medium_skin_tone", [0x1F3CC, 0x1F3FD]),
      ("person_juggling_light_skin_tone", [0x1F939, 0x1F3FB]),
      ("person_pouting_medium_skin_tone", [0x1F64E, 0x1F3FD]),
      ("person_running_medium_skin_tone", [0x1F3C3, 0x1F3FD]),
      ("person_shrugging_dark_skin_tone", [0x1F937, 0x1F3FF]),
      ("person_surfing_medium_skin_tone", [0x1F3C4, 0x1F3FD]),
      ("person_swimming_light_skin_tone", [0x1F3CA, 0x1F3FB]),
      ("person_walking_medium_skin_tone", [0x1F6B6, 0x1F3FD]),
      ("police_officer_medium_skin_tone", [0x1F46E, 0x1F3FD]),
      ("pregnant_woman_medium_skin_tone", [0x1F930, 0x1F3FD]),
      ("princess_medium-light_skin_tone", [0x1F478, 0x1F3FC]),
      ("thumbs_up_medium-dark_skin_tone", [0x1F44D, 0x1F3FE]),
      ("woman_astronaut_light_skin_tone", [0x1F469, 0x1F3FB, 0x200D, 0x1F680]),
      ("woman_climbing_medium_skin_tone", [0x1F9D7, 0x1F3FD, 0x200D, 0x2640, 0xFE0F]),
      ("woman_detective_light_skin_tone", [0x1F575, 0x1F3FB, 0x200D, 0x2640, 0xFE0F]),
      ("woman_elf_medium-dark_skin_tone", [0x1F9DD, 0x1F3FE, 0x200D, 0x2640, 0xFE0F]),
      ("woman_frowning_medium_skin_tone", [0x1F64D, 0x1F3FD, 0x200D, 0x2640, 0xFE0F]),
      ("woman_juggling_medium_skin_tone", [0x1F939, 0x1F3FD, 0x200D, 0x2640, 0xFE0F]),
      ("woman_mechanic_medium_skin_tone", [0x1F469, 0x1F3FD, 0x200D, 0x1F527]),
      ("woman_scientist_light_skin_tone", [0x1F469, 0x1F3FB, 0x200D, 0x1F52C]),
      ("woman_shrugging_light_skin_tone", [0x1F937, 0x1F3FB, 0x200D, 0x2640, 0xFE0F]),
      ("woman_swimming_medium_skin_tone", [0x1F3CA, 0x1F3FD, 0x200D, 0x2640, 0xFE0F])],
    [("baby_angel_medium-dark_skin_tone", [0x1F47C, 0x1F3FE]),
      ("blond-haired_man_light_skin_tone", [0x1F471, 0x1F3FB, 0x200D, 0x2642, 0xFE0F]),
      ("bride_with_veil_medium_skin_tone", [0x1F470, 0x1F3FD]),
      ("closed_mailbox_with_lowered_flag", [0x1F4EA]),
      ("crossed_fingers_medium_skin_tone", [0x1F91E, 0x1F3FD]),
      ("detective_medium-light_skin_tone", [0x1F575, 0x1F3FC]),
      ("flag_for_palestinian_territories", [0x1F1F5, 0x1F1F8]),
      ("index_pointing_up_dark_skin_tone", [0x261D, 0x1F3FF]),
      ("left-facing_fist_light_skin_tone", [0x1F91B, 0x1F3FB]),
      ("love-you_gesture_light_skin_tone", [0x1F91F, 0x1F3FB]),
      ("man_artist_medium-dark_skin_tone", [0x1F468, 0x1F3FE, 0x200D, 0x1F3A8]),
      ("man_biking_medium-dark_skin_tone", [0x1F6B4, 0x1F3FE, 0x200D, 0x2642, 0xFE0F]),
      ("man_bouncing_ball_dark_skin_tone", [0x26F9, 0x1F3FF, 0x200D, 0x2642, 0xFE0F]),
      ("man_bowing_medium-dark_skin_tone", [0x1F647, 0x1F3FE, 0x200D, 0x2642, 0xFE0F]),
      ("man_cartwheeling_light_skin_tone", [0x1F938, 0x1F3FB, 0x200D, 0x2642, 0xFE0F]),
      ("man_facepalming_medium_skin_tone", [0x1F926, 0x1F3FD, 0x200D, 0x2642, 0xFE0F]),
      ("man_fairy_medium-light_skin_tone", [0x1F9DA, 0x1F3FC, 0x200D, 0x2642, 0xFE0F]),
      ("man_farmer_medium-dark_skin_tone", [0x1F468, 0x1F3FE, 0x200D, 0x1F33E]),
      ("man_firefighter_medium_skin_tone", [0x1F468, 0x1F3FD, 0x200D, 0x1F692]),
      ("man_gesturing_no_light_skin_tone", [0x1F645, 0x1F3FB, 0x200D, 0x2642, 0xFE0F]),
      ("man_gesturing_ok_light_skin_tone", [0x1F646, 0x1F3FB, 0x200D, 0x2642, 0xFE0F]),
      ("man_guard_medium-light_skin_tone", [0x1F482, 0x1F3FC, 0x200D, 0x2642, 0xFE0F]),
      ("man_health_worker_dark_skin_tone", [0x1F468, 0x1F3FF, 0x200D, 0x2695, 0xFE0F]),
      ("man_judge_medium-light_skin_tone", [0x1F468, 0x1F3FC, 0x200D, 0x2696, 0xFE0F]),
      ("man_office_worker_dark_skin_tone", [0x1F468, 0x1F3FF, 0x200D, 0x1F4BC]),
      ("man_pilot_medium-light_skin_tone", [0x1F468, 0x1F3FC, 0x200D, 0x2708, 0xFE0F]),
      ("man_raising_hand_light_skin_tone", [0x1F64B, 0x1F3FB, 0x200D, 0x2642, 0xFE0F]),
      ("man_rowing_boat_medium_skin_tone", [0x1F6A3, 0x1F3FD, 0x200D, 0x2642, 0xFE0F]),
      ("man_singer_medium-dark_skin_tone", [0x1F468, 0x1F3FE, 0x200D, 0x1F3A4]),
      ("man_technologist_light_skin_tone", [0x1F468, 0x1F3FB, 0x200D, 0x1F4BB]),
      ("man_tipping_hand_light_skin_tone", [0x1F481, 0x1F3FB, 0x200D, 0x2642, 0xFE0F]),
      ("merperson_medium-light_skin_tone", [0x1F9DC, 0x1F3FC]),
      ("mrs._claus_medium-dark_skin_tone", [0x1F936, 0x1F3FE]),
      ("old_woman_medium-light_skin_tone", [0x1F475, 0x1F3FC]),
      ("open_hands_medium-dark_skin_tone", [0x1F450, 0x1F3FE]),
      ("palms_up_together_dark_skin_tone", [0x1F932, 0x1F3FF]),
      ("person_climbing_medium_skin_tone", [0x1F9D7, 0x1F3FD]),
      ("person_frowning_medium_skin_tone", [0x1F64D, 0x1F3FD]),
      ("person_juggling_medium_skin_tone", [0x1F939, 0x1F3FD]),
      ("person_shrugging_light_skin_tone", [0x1F937, 0x1F3FB]),
      ("person_swimming_medium_skin_tone", [0x1F3CA, 0x1F3FD]),
      ("raised_hand_with_fingers_splayed", [0x1F590]),
      ("right-facing_fist_dark_skin_tone", [0x1F91C, 0x1F3FF]),
      ("sign_of_the_horns_dark_skin_tone", [0x1F918, 0x1F3FF]),
      ("smiling_cat_face_with_heart-eyes", [0x1F63B]),
      ("thumbs_up_medium-light_skin_tone", [0x1F44D, 0x1F3FC]),
      ("white_sun_behind_cloud_with_rain", [0x1F326]),
      ("woman_astronaut_medium_skin_tone", [0x1F469, 0x1F3FD, 0x200D, 0x1F680]),
      ("woman_cook_medium-dark_skin_tone", [0x1F469, 0x1F3FE, 0x200D, 0x1F373]),
      ("woman_detective_medium_skin_tone", [0x1F575, 0x1F3FD, 0x200D, 0x2640, 0xFE0F]),
      ("woman_elf_medium-light_skin_tone", [0x1F9DD, 0x1F3FC, 0x200D, 0x2640, 0xFE0F]),
      ("woman_facepalming_dark_skin_tone", [0x1F926, 0x1F3FF, 0x200D, 0x2640, 0xFE0F]),
      ("woman_firefighter_dark_skin_tone", [0x1F469, 0x1F3FF, 0x200D, 0x1F692]),
      ("woman_mage_medium-dark_skin_tone", [0x1F9D9, 0x1F3FE, 0x200D, 0x2640, 0xFE0F]),
      ("woman_rowing_boat_dark_skin_tone", [0x1F6A3, 0x1F3FF, 0x200D, 0x2640, 0xFE0F]),
      ("woman_scientist_medium_skin_tone", [0x1F469, 0x1F3FD, 0x200D, 0x1F52C]),
      ("woman_shrugging_medium_skin_tone", [0x1F937, 0x1F3FD, 0x200D, 0x2640, 0xFE0F])]]

def codesTo40 : List (List (String × List Nat)) :=
  [[("baby_angel_medium-light_skin_tone", [0x1F47C, 0x1F3FC]),
      ("badminton_racquet_and_shuttlecock", [0x1F3F8]),
      ("blond-haired_man_medium_skin_tone", [0x1F471, 0x1F3FD, 0x200D, 0x2642, 0xFE0F]),
      ("blond-haired_woman_dark_skin_tone", [0x1F471, 0x1F3FF, 0x200D, 0x2640, 0xFE0F]),
      ("flag_for_central_african_republic", [0x1F1E8, 0x1F1EB]),
      ("flag_for_heard_&_mcdonald_islands", [0x1F1ED, 0x1F1F2]),
      ("flag_for_northern_mariana_islands", [0x1F1F2, 0x1F1F5]),
      ("flag_for_st._vincent_&_grenadines", [0x1F1FB, 0x1F1E8]),
      ("index_pointing_up_light_skin_tone", [0x261D, 0x1F3FB]),
      ("japanese_open_for_business_button", [0x1F23A]),
      ("left-facing_fist_medium_skin_tone", [0x1F91B, 0x1F3FD]),
      ("love-you_gesture_medium_skin_tone", [0x1F91F, 0x1F3FD]),
      ("man_artist_medium-light_skin_tone", [0x1F468, 0x1F3FC, 0x200D, 0x1F3A8]),
      ("man_biking_medium-light_skin_tone", [0x1F6B4, 0x1F3FC, 0x200D, 0x2642, 0xFE0F]),
      ("man_bouncing_ball_light_skin_tone", [0x26F9, 0x1F3FB, 0x200D, 0x2642, 0xFE0F]),
      ("man_bowing_medium-light_skin_tone", [0x1F647, 0x1F3FC, 0x200D, 0x2642, 0xFE0F]),
      ("man_cartwheeling_medium_skin_tone", [0x1F938, 0x1F3FD, 0x200D, 0x2642, 0xFE0F]),
      ("man_dancing_medium-dark_skin_tone", [0x1F57A, 0x1F3FE]),
      ("man_factory_worker_dark_skin_tone", [0x1F468, 0x1F3FF, 0x200D, 0x1F3ED]),
      ("man_farmer_medium-light_skin_tone", [0x1F468, 0x1F3FC, 0x200D, 0x1F33E]),
      ("man_gesturing_no_medium_skin_tone", [0x1F645, 0x1F3FD, 0x200D, 0x2642, 0xFE0F]),
      ("man_gesturing_ok_medium_skin_tone", [0x1F646, 0x1F3FD, 0x200D, 0x2642, 0xFE0F]),
      ("man_golfing_medium-dark_skin_tone", [0x1F3CC, 0x1F3FE, 0x200D, 0x2642, 0xFE0F]),
      ("man_health_worker_light_skin_tone", [0x1F468, 0x1F3FB, 0x200D, 0x2695, 0xFE0F]),
      ("man_in_steamy_room_dark_skin_tone", [0x1F9D6, 0x1F3FF, 0x200D, 0x2642, 0xFE0F]),
      ("man_office_worker_light_skin_tone", [0x1F468, 0x1F3FB, 0x200D, 0x1F4BC]),
      ("man_police_officer_dark_skin_tone", [0x1F46E, 0x1F3FF, 0x200D, 0x2642, 0xFE0F]),
      ("man_pouting_medium-dark_skin_tone", [0x1F64E, 0x1F3FE, 0x200D, 0x2642, 0xFE0F]),
      ("man_raising_hand_medium_skin_tone", [0x1F64B, 0x1F3FD, 0x200D, 0x2642, 0xFE0F]),
      ("man_running_medium-dark_skin_tone", [0x1F3C3, 0x1F3FE, 0x200D, 0x2642, 0xFE0F]),
      ("man_singer_medium-light_skin_tone", [0x1F468, 0x1F3FC, 0x200D, 0x1F3A4]),
      ("man_student_medium-dark_skin_tone", [0x1F468, 0x1F3FE, 0x200D, 0x1F393]),
      ("man_surfing_medium-dark_skin_tone", [0x1F3C4, 0x1F3FE, 0x200D, 0x2642, 0xFE0F]),
      ("man_teacher_medium-dark_skin_tone", [0x1F468, 0x1F3FE, 0x200D, 0x1F3EB]),
      ("man_technologist_medium_skin_tone", [0x1F468, 0x1F3FD, 0x200D, 0x1F4BB]),
      ("man_tipping_hand_medium_skin_tone", [0x1F481, 0x1F3FD, 0x200D, 0x2642, 0xFE0F]),
      ("man_vampire_medium-dark_skin_tone", [0x1F9DB, 0x1F3FE, 0x200D, 0x2642, 0xFE0F]),
      ("man_walking_medium-dark_skin_tone", [0x1F6B6, 0x1F3FE, 0x200D, 0x2642, 0xFE0F]),
      ("man_wearing_turban_dark_skin_tone", [0x1F473, 0x1F3FF, 0x200D, 0x2642, 0xFE0F]),
      ("mrs._claus_medium-light_skin_tone", [0x1F936, 0x1F3FC]),
      ("nail_polish_medium-dark_skin_tone", [0x1F485, 0x1F3FE]),
      ("older_adult_medium-dark_skin_tone", [0x1F9D3, 0x1F3FE]),
      ("open_hands_medium-light_skin_tone", [0x1F450, 0x1F3FC]),
      ("palms_up_together_light_skin_tone", [0x1F932, 0x1F3FB]),
      ("person_facepalming_dark_skin_tone", [0x1F926, 0x1F3FF]),
      ("person_rowing_boat_dark_skin_tone", [0x1F6A3, 0x1F3FF]),
      ("person_shrugging_medium_skin_tone", [0x1F937, 0x1F3FD]),
      ("person_taking_bath_dark_skin_tone", [0x1F6C0, 0x1F3FF]),
      ("raised_fist_medium-dark_skin_tone", [0x270A, 0x1F3FE]),
      ("raised_hand_medium-dark_skin_tone", [0x270B, 0x1F3FE]),
      ("right-facing_fist_light_skin_tone", [0x1F91C, 0x1F3FB]),
      ("santa_claus_medium-dark_skin_tone", [0x1F385, 0x1F3FE]),
      ("sign_of_the_horns_light_skin_tone", [0x1F918, 0x1F3FB]),
      ("snowboarder_medium-dark_skin_tone", [0x1F3C2, 0x1F3FE]),
      ("thumbs_down_medium-dark_skin_tone", [0x1F44E, 0x1F3FE]),
      ("waving_hand_medium-dark_skin_tone", [0x1F44B, 0x1F3FE]),
      ("woman_cartwheeling_dark_skin_tone", [0x1F938, 0x1F3FF, 0x200D, 0x2640, 0xFE0F]),
      ("woman_cook_medium-light_skin_tone", [0x1F469, 0x1F3FC, 0x200D, 0x1F373]),
      ("woman_facepalming_light_skin_tone", [0x1F926, 0x1F3FB, 0x200D, 0x2640, 0xFE0F]),
      ("woman_fairy_medium-dark_skin_tone", [0x1F9DA, 0x1F3FE, 0x200D, 0x2640, 0xFE0F]),
      ("woman_firefighter_light_skin_tone", [0x1F469, 0x1F3FB, 0x200D, 0x1F692]),
      ("woman_gesturing_no_dark_skin_tone", [0x1F645, 0x1F3FF, 0x200D, 0x2640, 0xFE0F]),
      ("woman_gesturing_ok_dark_skin_tone", [0x1F646, 0x1F3FF, 0x200D, 0x2640, 0xFE0F]),
      ("woman_guard_medium-dark_skin_tone", [0x1F482, 0x1F3FE, 0x200D, 0x2640, 0xFE0F]),
      ("woman_judge_medium-dark_skin_tone", [0x1F469, 0x1F3FE, 0x200D, 0x2696, 0xFE0F]),
      ("woman_mage_medium-light_skin_tone", [0x1F9D9, 0x1F3FC, 0x200D, 0x2640, 0xFE0F]),
      ("woman_pilot_medium-dark_skin_tone", [0x1F469, 0x1F3FE, 0x200D, 0x2708, 0xFE0F]),
      ("woman_raising_hand_dark_skin_tone", [0x1F64B, 0x1F3FF, 0x200D, 0x2640, 0xFE0F]),
      ("woman_rowing_boat_light_skin_tone", [0x1F6A3, 0x1F3FB, 0x200D, 0x2640, 0xFE0F]),
      ("woman_technologist_dark_skin_tone", [0x1F469, 0x1F3FF, 0x200D, 0x1F4BB]),
      ("woman_tipping_hand_dark_skin_tone", [0x1F481, 0x1F3FF, 0x200D, 0x2640, 0xFE0F])],
    [("blond-haired_person_dark_skin_tone", [0x1F471, 0x1F3FF]),
      ("blond-haired_woman_light_skin_tone", [0x1F471, 0x1F3FB, 0x200D, 0x2640, 0xFE0F]),
      ("call_me_hand_medium-dark_skin_tone", [0x1F919, 0x1F3FE]),
      ("construction_worker_dark_skin_tone", [0x1F477, 0x1F3FF]),
      ("emoji_modifier_fitzpatrick_type__3", [0x1F3FC]),
      ("emoji_modifier_fitzpatrick_type__4", [0x1F3FD]),
      ("emoji_modifier_fitzpatrick_type__5", [0x1F3FE]),
      ("emoji_modifier_fitzpatrick_type__6", [0x1F3FF]),
      ("folded_hands_medium-dark_skin_tone", [0x1F64F, 0x1F3FE]),
      ("horse_racing_medium-dark_skin_tone", [0x1F3C7, 0x1F3FE]),
      ("index_pointing_up_medium_skin_tone", [0x261D, 0x1F3FD]),
      ("japanese_not_free_of_charge_button", [0x1F236]),
      ("man_bouncing_ball_medium_skin_tone", [0x26F9, 0x1F3FD, 0x200D, 0x2642, 0xFE0F]),
      ("man_climbing_medium-dark_skin_tone", [0x1F9D7, 0x1F3FE, 0x200D, 0x2642, 0xFE0F]),
      ("man_dancing_medium-light_skin_tone", [0x1F57A, 0x1F3FC]),
      ("man_factory_worker_light_skin_tone", [0x1F468, 0x1F3FB, 0x200D, 0x1F3ED]),
      ("man_frowning_medium-dark_skin_tone", [0x1F64D, 0x1F3FE, 0x200D, 0x2642, 0xFE0F]),
      ("man_getting_haircut_dark_skin_tone", [0x1F487, 0x1F3FF, 0x200D, 0x2642, 0xFE0F]),
      ("man_getting_massage_dark_skin_tone", [0x1F486, 0x1F3FF, 0x200D, 0x2642, 0xFE0F]),
      ("man_golfing_medium-light_skin_tone", [0x1F3CC, 0x1F3FC, 0x200D, 0x2642, 0xFE0F]),
      ("man_health_worker_medium_skin_tone", [0x1F468, 0x1F3FD, 0x200D, 0x2695, 0xFE0F]),
      ("man_in_steamy_room_light_skin_tone", [0x1F9D6, 0x1F3FB, 0x200D, 0x2642, 0xFE0F]),
      ("man_juggling_medium-dark_skin_tone", [0x1F939, 0x1F3FE, 0x200D, 0x2642, 0xFE0F]),
      ("man_lifting_weights_dark_skin_tone", [0x1F3CB, 0x1F3FF, 0x200D, 0x2642, 0xFE0F]),
      ("man_mechanic_medium-dark_skin_tone", [0x1F468, 0x1F3FE, 0x200D, 0x1F527]),
      ("man_mountain_biking_dark_skin_tone", [0x1F6B5, 0x1F3FF, 0x200D, 0x2642, 0xFE0F]),
      ("man_office_worker_medium_skin_tone", [0x1F468, 0x1F3FD, 0x200D, 0x1F4BC]),
      ("man_police_officer_light_skin_tone", [0x1F46E, 0x1F3FB, 0x200D, 0x2642, 0xFE0F]),
      ("man_pouting_medium-light_skin_tone", [0x1F64E, 0x1F3FC, 0x200D, 0x2642, 0xFE0F]),
      ("man_running_medium-light_skin_tone", [0x1F3C3, 0x1F3FC, 0x200D, 0x2642, 0xFE0F]),
      ("man_student_medium-light_skin_tone", [0x1F468, 0x1F3FC, 0x200D, 0x1F393]),
      ("man_surfing_medium-light_skin_tone", [0x1F3C4, 0x1F3FC, 0x200D, 0x2642, 0xFE0F]),
      ("man_swimming_medium-dark_skin_tone", [0x1F3CA, 0x1F3FE, 0x200D, 0x2642, 0xFE0F]),
      ("man_teacher_medium-light_skin_tone", [0x1F468, 0x1F3FC, 0x200D, 0x1F3EB]),
      ("man_vampire_medium-light_skin_tone", [0x1F9DB, 0x1F3FC, 0x200D, 0x2642, 0xFE0F]),
      ("man_walking_medium-light_skin_tone", [0x1F6B6, 0x1F3FC, 0x200D, 0x2642, 0xFE0F]),
      ("man_wearing_turban_light_skin_tone", [0x1F473, 0x1F3FB, 0x200D, 0x2642, 0xFE0F]),
      ("nail_polish_medium-light_skin_tone", [0x1F485, 0x1F3FC]),
      ("older_adult_medium-light_skin_tone", [0x1F9D3, 0x1F3FC]),
      ("palms_up_together_medium_skin_tone", [0x1F932, 0x1F3FD]),
      ("person_cartwheeling_dark_skin_tone", [0x1F938, 0x1F3FF]),
      ("person_facepalming_light_skin_tone", [0x1F926, 0x1F3FB]),
      ("person_gesturing_no_dark_skin_tone", [0x1F645, 0x1F3FF]),
      ("person_gesturing_ok_dark_skin_tone", [0x1F646, 0x1F3FF]),
      ("person_raising_hand_dark_skin_tone", [0x1F64B, 0x1F3FF]),
      ("person_rowing_boat_light_skin_tone", [0x1F6A3, 0x1F3FB]),
      ("person_taking_bath_light_skin_tone", [0x1F6C0, 0x1F3FB]),
      ("person_tipping_hand_dark_skin_tone", [0x1F481, 0x1F3FF]),
      ("raised_back_of_hand_dark_skin_tone", [0x1F91A, 0x1F3FF]),
      ("raised_fist_medium-light_skin_tone", [0x270A, 0x1F3FC]),
      ("raised_hand_medium-light_skin_tone", [0x270B, 0x1F3FC]),
      ("regional_indicator_symbol_letter_a", [0x1F1E6]),
      ("regional_indicator_symbol_letter_b", [0x1F1E7]),
      ("regional_indicator_symbol_letter_c", [0x1F1E8]),
      ("regional_indicator_symbol_letter_d", [0x1F1E9]),
      ("regional_indicator_symbol_letter_e", [0x1F1EA]),
      ("regional_indicator_symbol_letter_f", [0x1F1EB]),
      ("regional_indicator_symbol_letter_g", [0x1F1EC]),
      ("regional_indicator_symbol_letter_h", [0x1F1ED]),
      ("regional_indicator_symbol_letter_i", [0x1F1EE]),
      ("regional_indicator_symbol_letter_j", [0x1F1EF]),
      ("regional_indicator_symbol_letter_k", [0x1F1F0]),
      ("regional_indicator_symbol_letter_l", [0x1F1F1]),
      ("regional_indicator_symbol_letter_m", [0x1F1F2]),
      ("regional_indicator_symbol_letter_n", [0x1F1F3]),
      ("regional_indicator_symbol_letter_o", [0x1F1F4]),
      ("regional_indicator_symbol_letter_p", [0x1F1F5]),
      ("regional_indicator_symbol_letter_q", [0x1F1F6]),
      ("regional_indicator_symbol_letter_r", [0x1F1F7]),
      ("regional_indicator_symbol_letter_s", [0x1F1F8]),
      ("regional_indicator_symbol_letter_t", [0x1F1F9]),
      ("regional_indicator_symbol_letter_u", [0x1F1FA]),
      ("regional_indicator_symbol_letter_v", [0x1F1FB]),
      ("regional_indicator_symbol_letter_w", [0x1F1FC]),
      ("regional_indicator_symbol_letter_x", [0x1F1FD]),
      ("regional_indicator_symbol_letter_y", [0x1F1FE]),
      ("regional_indicator_symbol_letter_z", [0x1F1FF]),
      ("right-facing_fist_medium_skin_tone", [0x1F91C, 0x1F3FD]),
      ("santa_claus_medium-light_skin_tone", [0x1F385, 0x1F3FC]),
      ("sign_of_the_horns_medium_skin_tone", [0x1F918, 0x1F3FD]),
      ("snowboarder_medium-light_skin_tone", [0x1F3C2, 0x1F3FC]),
      ("thumbs_down_medium-light_skin_tone", [0x1F44E, 0x1F3FC]),
      ("victory_hand_medium-dark_skin_tone", [0x270C, 0x1F3FE]),
      ("waving_hand_medium-light_skin_tone", [0x1F44B, 0x1F3FC]),
      ("woman_artist_medium-dark_skin_tone", [0x1F469, 0x1F3FE, 0x200D, 0x1F3A8]),
      ("woman_biking_medium-dark_skin_tone", [0x1F6B4, 0x1F3FE, 0x200D, 0x2640, 0xFE0F]),
      ("woman_bouncing_ball_dark_skin_tone", [0x26F9, 0x1F3FF, 0x200D, 0x2640, 0xFE0F]),
      ("woman_bowing_medium-dark_skin_tone", [0x1F647, 0x1F3FE, 0x200D, 0x2640, 0xFE0F]),
      ("woman_cartwheeling_light_skin_tone", [0x1F938, 0x1F3FB, 0x200D, 0x2640, 0xFE0F]),
      ("woman_facepalming_medium_skin_tone", [0x1F926, 0x1F3FD, 0x200D, 0x2640, 0xFE0F]),
      ("woman_fairy_medium-light_skin_tone", [0x1F9DA, 0x1F3FC, 0x200D, 0x2640, 0xFE0F]),
      ("woman_farmer_medium-dark_skin_tone", [0x1F469, 0x1F3FE, 0x200D, 0x1F33E]),
      ("woman_firefighter_medium_skin_tone", [0x1F469, 0x1F3FD, 0x200D, 0x1F692]),
      ("woman_gesturing_no_light_skin_tone", [0x1F645, 0x1F3FB, 0x200D, 0x2640, 0xFE0F]),
      ("woman_gesturing_ok_light_skin_tone", [0x1F646, 0x1F3FB, 0x200D, 0x2640, 0xFE0F]),
      ("woman_guard_medium-light_skin_tone", [0x1F482, 0x1F3FC, 0x200D, 0x2640, 0xFE0F]),
      ("woman_health_worker_dark_skin_tone", [0x1F469, 0x1F3FF, 0x200D, 0x2695, 0xFE0F]),
      ("woman_judge_medium-light_skin_tone", [0x1F469, 0x1F3FC, 0x200D, 0x2696, 0xFE0F]),
      ("woman_office_worker_dark_skin_tone", [0x1F469, 0x1F3FF, 0x200D, 0x1F4BC]),
      ("woman_pilot_medium-light_skin_tone", [0x1F469, 0x1F3FC, 0x200D, 0x2708, 0xFE0F]),
      ("woman_raising_hand_light_skin_tone", [0x1F64B, 0x1F3FB, 0x200D, 0x2640, 0xFE0F]),
      ("woman_rowing_boat_medium_skin_tone", [0x1F6A3, 0x1F3FD, 0x200D, 0x2640, 0xFE0F]),
      ("woman_singer_medium-dark_skin_tone", [0x1F469, 0x1F3FE, 0x200D, 0x1F3A4]),
      ("woman_technologist_light_skin_tone", [0x1F469, 0x1F3FB, 0x200D, 0x1F4BB]),
      ("woman_tipping_hand_light_skin_tone", [0x1F481, 0x1F3FB, 0x200D, 0x2640, 0xFE0F]),
      ("writing_hand_medium-dark_skin_tone", [0x270D, 0x1F3FE])],
    [("blond-haired_person_light_skin_tone", [0x1F471, 0x1F3FB]),
      ("blond-haired_woman_medium_skin_tone", [0x1F471, 0x1F3FD, 0x200D, 0x2640, 0xFE0F]),
      ("call_me_hand_medium-light_skin_tone", [0x1F919, 0x1F3FC]),
      ("construction_worker_light_skin_tone", [0x1F477, 0x1F3FB]),
      ("flexed_biceps_medium-dark_skin_tone", [0x1F4AA, 0x1F3FE]),
      ("folded_hands_medium-light_skin_tone", [0x1F64F, 0x1F3FC]),
      ("grinning_cat_face_with_smiling_eyes", [0x1F638]),
      ("horse_racing_medium-light_skin_tone", [0x1F3C7, 0x1F3FC]),
      ("man_astronaut_medium-dark_skin_tone", [0x1F468, 0x1F3FE, 0x200D, 0x1F680]),
      ("man_climbing_medium-light_skin_tone", [0x1F9D7, 0x1F3FC, 0x200D, 0x2642, 0xFE0F]),
      ("man_detective_medium-dark_skin_tone", [0x1F575, 0x1F3FE, 0x200D, 0x2642, 0xFE0F]),
      ("man_factory_worker_medium_skin_tone", [0x1F468, 0x1F3FD, 0x200D, 0x1F3ED]),
      ("man_frowning_medium-light_skin_tone", [0x1F64D, 0x1F3FC, 0x200D, 0x2642, 0xFE0F]),
      ("man_getting_haircut_light_skin_tone", [0x1F487, 0x1F3FB, 0x200D, 0x2642, 0xFE0F]),
      ("man_getting_massage_light_skin_tone", [0x1F486, 0x1F3FB, 0x200D, 0x2642, 0xFE0F]),
      ("man_in_steamy_room_medium_skin_tone", [0x1F9D6, 0x1F3FD, 0x200D, 0x2642, 0xFE0F]),
      ("man_in_tuxedo_medium-dark_skin_tone", [0x1F935, 0x1F3FE]),
      ("man_juggling_medium-light_skin_tone", [0x1F939, 0x1F3FC, 0x200D, 0x2642, 0xFE0F]),
      ("man_lifting_weights_light_skin_tone", [0x1F3CB, 0x1F3FB, 0x200D, 0x2642, 0xFE0F]),
      ("man_mechanic_medium-light_skin_tone", [0x1F468, 0x1F3FC, 0x200D, 0x1F527]),
      ("man_mountain_biking_light_skin_tone", [0x1F6B5, 0x1F3FB, 0x200D, 0x2642, 0xFE0F]),
      ("man_playing_handball_dark_skin_tone", [0x1F93E, 0x1F3FF, 0x200D, 0x2642, 0xFE0F]),
      ("man_police_officer_medium_skin_tone", [0x1F46E, 0x1F3FD, 0x200D, 0x2642, 0xFE0F]),
      ("man_scientist_medium-dark_skin_tone", [0x1F468, 0x1F3FE, 0x200D, 0x1F52C]),
      ("man_shrugging_medium-dark_skin_tone", [0x1F937, 0x1F3FE, 0x200D, 0x2642, 0xFE0F]),
      ("man_swimming_medium-light_skin_tone", [0x1F3CA, 0x1F3FC, 0x200D, 0x2642, 0xFE0F]),
      ("man_wearing_turban_medium_skin_tone", [0x1F473, 0x1F3FD, 0x200D, 0x2642, 0xFE0F]),
      ("man_with_chinese_cap_dark_skin_tone", [0x1F472, 0x1F3FF]),
      ("middle_finger_medium-dark_skin_tone", [0x1F595, 0x1F3FE]),
      ("oncoming_fist_medium-dark_skin_tone", [0x1F44A, 0x1F3FE]),
      ("person_biking_medium-dark_skin_tone", [0x1F6B4, 0x1F3FE]),
      ("person_bouncing_ball_dark_skin_tone", [0x26F9, 0x1F3FF]),
      ("person_bowing_medium-dark_skin_tone", [0x1F647, 0x1F3FE]),
      ("person_cartwheeling_light_skin_tone", [0x1F938, 0x1F3FB]),
      ("person_facepalming_medium_skin_tone", [0x1F926, 0x1F3FD]),
      ("person_gesturing_no_light_skin_tone", [0x1F645, 0x1F3FB]),
      ("person_gesturing_ok_light_skin_tone", [0x1F646, 0x1F3FB]),
      ("person_in_bed_medium-dark_skin_tone", [0x1F6CC, 0x1F3FE]),
      ("person_raising_hand_light_skin_tone", [0x1F64B, 0x1F3FB]),
      ("person_rowing_boat_medium_skin_tone", [0x1F6A3, 0x1F3FD]),
      ("person_taking_bath_medium_skin_tone", [0x1F6C0, 0x1F3FD]),
      ("person_tipping_hand_light_skin_tone", [0x1F481, 0x1F3FB]),
      ("raised_back_of_hand_light_skin_tone", [0x1F91A, 0x1F3FB]),
      ("raising_hands_medium-dark_skin_tone", [0x1F64C, 0x1F3FE]),
      ("victory_hand_medium-light_skin_tone", [0x270C, 0x1F3FC]),
      ("vulcan_salute_medium-dark_skin_tone", [0x1F596, 0x1F3FE]),
      ("woman_artist_medium-light_skin_tone", [0x1F469, 0x1F3FC, 0x200D, 0x1F3A8]),
      ("woman_biking_medium-light_skin_tone", [0x1F6B4, 0x1F3FC, 0x200D, 0x2640, 0xFE0F]),
      ("woman_bouncing_ball_light_skin_tone", [0x26F9, 0x1F3FB, 0x200D, 0x2640, 0xFE0F]),
      ("woman_bowing_medium-light_skin_tone", [0x1F647, 0x1F3FC, 0x200D, 0x2640, 0xFE0F]),
      ("woman_cartwheeling_medium_skin_tone", [0x1F938, 0x1F3FD, 0x200D, 0x2640, 0xFE0F]),
      ("woman_dancing_medium-dark_skin_tone", [0x1F483, 0x1F3FE]),
      ("woman_factory_worker_dark_skin_tone", [0x1F469, 0x1F3FF, 0x200D, 0x1F3ED]),
      ("woman_farmer_medium-light_skin_tone", [0x1F469, 0x1F3FC, 0x200D, 0x1F33E]),
      ("woman_gesturing_no_medium_skin_tone", [0x1F645, 0x1F3FD, 0x200D, 0x2640, 0xFE0F]),
      ("woman_gesturing_ok_medium_skin_tone", [0x1F646, 0x1F3FD, 0x200D, 0x2640, 0xFE0F]),
      ("woman_golfing_medium-dark_skin_tone", [0x1F3CC, 0x1F3FE, 0x200D, 0x2640, 0xFE0F]),
      ("woman_health_worker_light_skin_tone", [0x1F469, 0x1F3FB, 0x200D, 0x2695, 0xFE0F]),
      ("woman_in_steamy_room_dark_skin_tone", [0x1F9D6, 0x1F3FF, 0x200D, 0x2640, 0xFE0F]),
      ("woman_office_worker_light_skin_tone", [0x1F469, 0x1F3FB, 0x200D, 0x1F4BC]),
      ("woman_police_officer_dark_skin_tone", [0x1F46E, 0x1F3FF, 0x200D, 0x2640, 0xFE0F]),
      ("woman_pouting_medium-dark_skin_tone", [0x1F64E, 0x1F3FE, 0x200D, 0x2640, 0xFE0F]),
      ("woman_raising_hand_medium_skin_tone", [0x1F64B, 0x1F3FD, 0x200D, 0x2640, 0xFE0F]),
      ("woman_running_medium-dark_skin_tone", [0x1F3C3, 0x1F3FE, 0x200D, 0x2640, 0xFE0F]),
      ("woman_singer_medium-light_skin_tone", [0x1F469, 0x1F3FC, 0x200D, 0x1F3A4]),
      ("woman_student_medium-dark_skin_tone", [0x1F469, 0x1F3FE, 0x200D, 0x1F393]),
      ("woman_surfing_medium-dark_skin_tone", [0x1F3C4, 0x1F3FE, 0x200D, 0x2640, 0xFE0F]),
      ("woman_teacher_medium-dark_skin_tone", [0x1F469, 0x1F3FE, 0x200D, 0x1F3EB]),
      ("woman_technologist_medium_skin_tone", [0x1F469, 0x1F3FD, 0x200D, 0x1F4BB]),
      ("woman_tipping_hand_medium_skin_tone", [0x1F481, 0x1F3FD, 0x200D, 0x2640, 0xFE0F]),
      ("woman_vampire_medium-dark_skin_tone", [0x1F9DB, 0x1F3FE, 0x200D, 0x2640, 0xFE0F]),
      ("woman_walking_medium-dark_skin_tone", [0x1F6B6, 0x1F3FE, 0x200D, 0x2640, 0xFE0F]),
      ("woman_wearing_turban_dark_skin_tone", [0x1F473, 0x1F3FF, 0x200D, 0x2640, 0xFE0F]),
      ("woman_with_headscarf_dark_skin_tone", [0x1F9D5, 0x1F3FF]),
      ("writing_hand_medium-light_skin_tone", [0x270D, 0x1F3FC])],
    [("bearded_person_medium-dark_skin_tone", [0x1F9D4, 0x1F3FE]),
      ("blond-haired_person_medium_skin_tone", [0x1F471, 0x1F3FD]),
      ("breast-feeding_medium-dark_skin_tone", [0x1F931, 0x1F3FE]),
      ("clapping_hands_medium-dark_skin_tone", [0x1F44F, 0x1F3FE]),
      ("construction_worker_medium_skin_tone", [0x1F477, 0x1F3FD]),
      ("flag_for_french_southern_territories", [0x1F1F9, 0x1F1EB]),
      ("flexed_biceps_medium-light_skin_tone", [0x1F4AA, 0x1F3FC]),
      ("man_astronaut_medium-light_skin_tone", [0x1F468, 0x1F3FC, 0x200D, 0x1F680]),
      ("man_detective_medium-light_skin_tone", [0x1F575, 0x1F3FC, 0x200D, 0x2642, 0xFE0F]),
      ("man_getting_haircut_medium_skin_tone", [0x1F487, 0x1F3FD, 0x200D, 0x2642, 0xFE0F]),
      ("man_getting_massage_medium_skin_tone", [0x1F486, 0x1F3FD, 0x200D, 0x2642, 0xFE0F]),
      ("man_in_lotus_position_dark_skin_tone", [0x1F9D8, 0x1F3FF, 0x200D, 0x2642, 0xFE0F]),
      ("man_in_tuxedo_medium-light_skin_tone", [0x1F935, 0x1F3FC]),
      ("man_lifting_weights_medium_skin_tone", [0x1F3CB, 0x1F3FD, 0x200D, 0x2642, 0xFE0F]),
      ("man_mountain_biking_medium_skin_tone", [0x1F6B5, 0x1F3FD, 0x200D, 0x2642, 0xFE0F]),
      ("man_playing_handball_light_skin_tone", [0x1F93E, 0x1F3FB, 0x200D, 0x2642, 0xFE0F]),
      ("man_scientist_medium-light_skin_tone", [0x1F468, 0x1F3FC, 0x200D, 0x1F52C]),
      ("man_shrugging_medium-light_skin_tone", [0x1F937, 0x1F3FC, 0x200D, 0x2642, 0xFE0F]),
      ("man_with_chinese_cap_light_skin_tone", [0x1F472, 0x1F3FB]),
      ("middle_finger_medium-light_skin_tone", [0x1F595, 0x1F3FC]),
      ("oncoming_fist_medium-light_skin_tone", [0x1F44A, 0x1F3FC]),
      ("person_biking_medium-light_skin_tone", [0x1F6B4, 0x1F3FC]),
      ("person_bouncing_ball_light_skin_tone", [0x26F9, 0x1F3FB]),
      ("person_bowing_medium-light_skin_tone", [0x1F647, 0x1F3FC]),
      ("person_cartwheeling_medium_skin_tone", [0x1F938, 0x1F3FD]),
      ("person_gesturing_no_medium_skin_tone", [0x1F645, 0x1F3FD]),
      ("person_gesturing_ok_medium_skin_tone", [0x1F646, 0x1F3FD]),
      ("person_golfing_medium-dark_skin_tone", [0x1F3CC, 0x1F3FE]),
      ("person_in_bed_medium-light_skin_tone", [0x1F6CC, 0x1F3FC]),
      ("person_in_steamy_room_dark_skin_tone", [0x1F9D6, 0x1F3FF]),
      ("person_pouting_medium-dark_skin_tone", [0x1F64E, 0x1F3FE]),
      ("person_raising_hand_medium_skin_tone", [0x1F64B, 0x1F3FD]),
      ("person_running_medium-dark_skin_tone", [0x1F3C3, 0x1F3FE]),
      ("person_surfing_medium-dark_skin_tone", [0x1F3C4, 0x1F3FE]),
      ("person_tipping_hand_medium_skin_tone", [0x1F481, 0x1F3FD]),
      ("person_walking_medium-dark_skin_tone", [0x1F6B6, 0x1F3FE]),
      ("person_wearing_turban_dark_skin_tone", [0x1F473, 0x1F3FF]),
      ("police_officer_medium-dark_skin_tone", [0x1F46E, 0x1F3FE]),
      ("pregnant_woman_medium-dark_skin_tone", [0x1F930, 0x1F3FE]),
      ("raised_back_of_hand_medium_skin_tone", [0x1F91A, 0x1F3FD]),
      ("raising_hands_medium-light_skin_tone", [0x1F64C, 0x1F3FC]),
      ("vulcan_salute_medium-light_skin_tone", [0x1F596, 0x1F3FC]),
      ("woman_bouncing_ball_medium_skin_tone", [0x26F9, 0x1F3FD, 0x200D, 0x2640, 0xFE0F]),
      ("woman_climbing_medium-dark_skin_tone", [0x1F9D7, 0x1F3FE, 0x200D, 0x2640, 0xFE0F]),
      ("woman_dancing_medium-light_skin_tone", [0x1F483, 0x1F3FC]),
      ("woman_factory_worker_light_skin_tone", [0x1F469, 0x1F3FB, 0x200D, 0x1F3ED]),
      ("woman_frowning_medium-dark_skin_tone", [0x1F64D, 0x1F3FE, 0x200D, 0x2640, 0xFE0F]),
      ("woman_getting_haircut_dark_skin_tone", [0x1F487, 0x1F3FF, 0x200D, 0x2640, 0xFE0F]),
      ("woman_getting_massage_dark_skin_tone", [0x1F486, 0x1F3FF, 0x200D, 0x2640, 0xFE0F]),
      ("woman_golfing_medium-light_skin_tone", [0x1F3CC, 0x1F3FC, 0x200D, 0x2640, 0xFE0F]),
      ("woman_health_worker_medium_skin_tone", [0x1F469, 0x1F3FD, 0x200D, 0x2695, 0xFE0F]),
      ("woman_in_steamy_room_light_skin_tone", [0x1F9D6, 0x1F3FB, 0x200D, 0x2640, 0xFE0F]),
      ("woman_juggling_medium-dark_skin_tone", [0x1F939, 0x1F3FE, 0x200D, 0x2640, 0xFE0F]),
      ("woman_lifting_weights_dark_skin_tone", [0x1F3CB, 0x1F3FF, 0x200D, 0x2640, 0xFE0F]),
      ("woman_mechanic_medium-dark_skin_tone", [0x1F469, 0x1F3FE, 0x200D, 0x1F527]),
      ("woman_mountain_biking_dark_skin_tone", [0x1F6B5, 0x1F3FF, 0x200D, 0x2640, 0xFE0F]),
      ("woman_office_worker_medium_skin_tone", [0x1F469, 0x1F3FD, 0x200D, 0x1F4BC]),
      ("woman_police_officer_light_skin_tone", [0x1F46E, 0x1F3FB, 0x200D, 0x2640, 0xFE0F]),
      ("woman_pouting_medium-light_skin_tone", [0x1F64E, 0x1F3FC, 0x200D, 0x2640, 0xFE0F]),
      ("woman_running_medium-light_skin_tone", [0x1F3C3, 0x1F3FC, 0x200D, 0x2640, 0xFE0F]),
      ("woman_student_medium-light_skin_tone", [0x1F469, 0x1F3FC, 0x200D, 0x1F393]),
      ("woman_surfing_medium-light_skin_tone", [0x1F3C4, 0x1F3FC, 0x200D, 0x2640, 0xFE0F]),
      ("woman_swimming_medium-dark_skin_tone", [0x1F3CA, 0x1F3FE, 0x200D, 0x2640, 0xFE0F]),
      ("woman_teacher_medium-light_skin_tone", [0x1F469, 0x1F3FC, 0x200D, 0x1F3EB]),
      ("woman_vampire_medium-light_skin_tone", [0x1F9DB, 0x1F3FC, 0x200D, 0x2640, 0xFE0F]),
      ("woman_walking_medium-light_skin_tone", [0x1F6B6, 0x1F3FC, 0x200D, 0x2640, 0xFE0F]),
      ("woman_wearing_turban_light_skin_tone", [0x1F473, 0x1F3FB, 0x200D, 0x2640, 0xFE0F]),
      ("woman_with_headscarf_light_skin_tone", [0x1F9D5, 0x1F3FB])],
    [("bearded_person_medium-light_skin_tone", [0x1F9D4, 0x1F3FC]),
      ("breast-feeding_medium-light_skin_tone", [0x1F931, 0x1F3FC]),
      ("bride_with_veil_medium-dark_skin_tone", [0x1F470, 0x1F3FE]),
      ("clapping_hands_medium-light_skin_tone", [0x1F44F, 0x1F3FC]),
      ("crossed_fingers_medium-dark_skin_tone", [0x1F91E, 0x1F3FE]),
      ("emoji_modifier_fitzpatrick_type__1__2", [0x1F3FB]),
      ("heavy_heart_exclamation_mark_ornament", [0x2763]),
      ("man_facepalming_medium-dark_skin_tone", [0x1F926, 0x1F3FE, 0x200D, 0x2642, 0xFE0F]),
      ("man_firefighter_medium-dark_skin_tone", [0x1F468, 0x1F3FE, 0x200D, 0x1F692]),
      ("man_in_lotus_position_light_skin_tone", [0x1F9D8, 0x1F3FB, 0x200D, 0x2642, 0xFE0F]),
      ("man_in_suit_levitating_dark_skin_tone", [0x1F574, 0x1F3FF]),
      ("man_playing_handball_medium_skin_tone", [0x1F93E, 0x1F3FD, 0x200D, 0x2642, 0xFE0F]),
      ("man_playing_water_polo_dark_skin_tone", [0x1F93D, 0x1F3FF, 0x200D, 0x2642, 0xFE0F]),
      ("man_rowing_boat_medium-dark_skin_tone", [0x1F6A3, 0x1F3FE, 0x200D, 0x2642, 0xFE0F]),
      ("man_with_chinese_cap_medium_skin_tone", [0x1F472, 0x1F3FD]),
      ("person_bouncing_ball_medium_skin_tone", [0x26F9, 0x1F3FD]),
      ("person_climbing_medium-dark_skin_tone", [0x1F9D7, 0x1F3FE]),
      ("person_frowning_medium-dark_skin_tone", [0x1F64D, 0x1F3FE]),
      ("person_getting_haircut_dark_skin_tone", [0x1F487, 0x1F3FF]),
      ("person_getting_massage_dark_skin_tone", [0x1F486, 0x1F3FF]),
      ("person_golfing_medium-light_skin_tone", [0x1F3CC, 0x1F3FC]),
      ("person_in_steamy_room_light_skin_tone", [0x1F9D6, 0x1F3FB]),
      ("person_juggling_medium-dark_skin_tone", [0x1F939, 0x1F3FE]),
      ("person_lifting_weights_dark_skin_tone", [0x1F3CB, 0x1F3FF]),
      ("person_mountain_biking_dark_skin_tone", [0x1F6B5, 0x1F3FF]),
      ("person_pouting_medium-light_skin_tone", [0x1F64E, 0x1F3FC]),
      ("person_running_medium-light_skin_tone", [0x1F3C3, 0x1F3FC]),
      ("person_surfing_medium-light_skin_tone", [0x1F3C4, 0x1F3FC]),
      ("person_swimming_medium-dark_skin_tone", [0x1F3CA, 0x1F3FE]),
      ("person_walking_medium-light_skin_tone", [0x1F6B6, 0x1F3FC]),
      ("person_wearing_turban_light_skin_tone", [0x1F473, 0x1F3FB]),
      ("police_officer_medium-light_skin_tone", [0x1F46E, 0x1F3FC]),
      ("pregnant_woman_medium-light_skin_tone", [0x1F930, 0x1F3FC]),
      ("woman_astronaut_medium-dark_skin_tone", [0x1F469, 0x1F3FE, 0x200D, 0x1F680]),
      ("woman_climbing_medium-light_skin_tone", [0x1F9D7, 0x1F3FC, 0x200D, 0x2640, 0xFE0F]),
      ("woman_detective_medium-dark_skin_tone", [0x1F575, 0x1F3FE, 0x200D, 0x2640, 0xFE0F]),
      ("woman_factory_worker_medium_skin_tone", [0x1F469, 0x1F3FD, 0x200D, 0x1F3ED]),
      ("woman_frowning_medium-light_skin_tone", [0x1F64D, 0x1F3FC, 0x200D, 0x2640, 0xFE0F]),
      ("woman_getting_haircut_light_skin_tone", [0x1F487, 0x1F3FB, 0x200D, 0x2640, 0xFE0F]),
      ("woman_getting_massage_light_skin_tone", [0x1F486, 0x1F3FB, 0x200D, 0x2640, 0xFE0F]),
      ("woman_in_steamy_room_medium_skin_tone", [0x1F9D6, 0x1F3FD, 0x200D, 0x2640, 0xFE0F]),
      ("woman_juggling_medium-light_skin_tone", [0x1F939, 0x1F3FC, 0x200D, 0x2640, 0xFE0F]),
      ("woman_lifting_weights_light_skin_tone", [0x1F3CB, 0x1F3FB, 0x200D, 0x2640, 0xFE0F]),
      ("woman_mechanic_medium-light_skin_tone", [0x1F469, 0x1F3FC, 0x200D, 0x1F527]),
      ("woman_mountain_biking_light_skin_tone", [0x1F6B5, 0x1F3FB, 0x200D, 0x2640, 0xFE0F]),
      ("woman_playing_handball_dark_skin_tone", [0x1F93E, 0x1F3FF, 0x200D, 0x2640, 0xFE0F]),
      ("woman_police_officer_medium_skin_tone", [0x1F46E, 0x1F3FD, 0x200D, 0x2640, 0xFE0F]),
      ("woman_scientist_medium-dark_skin_tone", [0x1F469, 0x1F3FE, 0x200D, 0x1F52C]),
      ("woman_shrugging_medium-dark_skin_tone", [0x1F937, 0x1F3FE, 0x200D, 0x2640, 0xFE0F]),
      ("woman_swimming_medium-light_skin_tone", [0x1F3CA, 0x1F3FC, 0x200D, 0x2640, 0xFE0F]),
      ("woman_wearing_turban_medium_skin_tone", [0x1F473, 0x1F3FD, 0x200D, 0x2640, 0xFE0F]),
      ("woman_with_headscarf_medium_skin_tone", [0x1F9D5, 0x1F3FD])],
    [("blond-haired_man_medium-dark_skin_tone", [0x1F471, 0x1F3FE, 0x200D, 0x2642, 0xFE0F]),
      ("bride_with_veil_medium-light_skin_tone", [0x1F470, 0x1F3FC]),
      ("crossed_fingers_medium-light_skin_tone", [0x1F91E, 0x1F3FC]),
      ("left-facing_fist_medium-dark_skin_tone", [0x1F91B, 0x1F3FE]),
      ("love-you_gesture_medium-dark_skin_tone", [0x1F91F, 0x1F3FE]),
      ("man_cartwheeling_medium-dark_skin_tone", [0x1F938, 0x1F3FE, 0x200D, 0x2642, 0xFE0F]),
      ("man_construction_worker_dark_skin_tone", [0x1F477, 0x1F3FF, 0x200D, 0x2642, 0xFE0F]),
      ("man_facepalming_medium-light_skin_tone", [0x1F926, 0x1F3FC, 0x200D, 0x2642, 0xFE0F]),
      ("man_firefighter_medium-light_skin_tone", [0x1F468, 0x1F3FC, 0x200D, 0x1F692]),
      ("man_gesturing_no_medium-dark_skin_tone", [0x1F645, 0x1F3FE, 0x200D, 0x2642, 0xFE0F]),
      ("man_gesturing_ok_medium-dark_skin_tone", [0x1F646, 0x1F3FE, 0x200D, 0x2642, 0xFE0F]),
      ("man_in_lotus_position_medium_skin_tone", [0x1F9D8, 0x1F3FD, 0x200D, 0x2642, 0xFE0F]),
      ("man_in_suit_levitating_light_skin_tone", [0x1F574, 0x1F3FB]),
      ("man_playing_water_polo_light_skin_tone", [0x1F93D, 0x1F3FB, 0x200D, 0x2642, 0xFE0F]),
      ("man_raising_hand_medium-dark_skin_tone", [0x1F64B, 0x1F3FE, 0x200D, 0x2642, 0xFE0F]),
      ("man_rowing_boat_medium-light_skin_tone", [0x1F6A3, 0x1F3FC, 0x200D, 0x2642, 0xFE0F]),
      ("man_technologist_medium-dark_skin_tone", [0x1F468, 0x1F3FE, 0x200D, 0x1F4BB]),
      ("man_tipping_hand_medium-dark_skin_tone", [0x1F481, 0x1F3FE, 0x200D, 0x2642, 0xFE0F]),
      ("person_climbing_medium-light_skin_tone", [0x1F9D7, 0x1F3FC]),
      ("person_frowning_medium-light_skin_tone", [0x1F64D, 0x1F3FC]),
      ("person_getting_haircut_light_skin_tone", [0x1F487, 0x1F3FB]),
      ("person_getting_massage_light_skin_tone", [0x1F486, 0x1F3FB]),
      ("person_in_steamy_room_medium_skin_tone", [0x1F9D6, 0x1F3FD]),
      ("person_juggling_medium-light_skin_tone", [0x1F939, 0x1F3FC]),
      ("person_lifting_weights_light_skin_tone", [0x1F3CB, 0x1F3FB]),
      ("person_mountain_biking_light_skin_tone", [0x1F6B5, 0x1F3FB]),
      ("person_playing_handball_dark_skin_tone", [0x1F93E, 0x1F3FF]),
      ("person_shrugging_medium-dark_skin_tone", [0x1F937, 0x1F3FE]),
      ("person_swimming_medium-light_skin_tone", [0x1F3CA, 0x1F3FC]),
      ("person_wearing_turban_medium_skin_tone", [0x1F473, 0x1F3FD]),
      ("south_georgia_&_south_sandwich_islands", [0x1F1EC, 0x1F1F8]),
      ("woman_astronaut_medium-light_skin_tone", [0x1F469, 0x1F3FC, 0x200D, 0x1F680]),
      ("woman_detective_medium-light_skin_tone", [0x1F575, 0x1F3FC, 0x200D, 0x2640, 0xFE0F]),
      ("woman_getting_haircut_medium_skin_tone", [0x1F487, 0x1F3FD, 0x200D, 0x2640, 0xFE0F]),
      ("woman_getting_massage_medium_skin_tone", [0x1F486, 0x1F3FD, 0x200D, 0x2640, 0xFE0F]),
      ("woman_in_lotus_position_dark_skin_tone", [0x1F9D8, 0x1F3FF, 0x200D, 0x2640, 0xFE0F]),
      ("woman_lifting_weights_medium_skin_tone", [0x1F3CB, 0x1F3FD, 0x200D, 0x2640, 0xFE0F]),
      ("woman_mountain_biking_medium_skin_tone", [0x1F6B5, 0x1F3FD, 0x200D, 0x2640, 0xFE0F]),
      ("woman_playing_handball_light_skin_tone", [0x1F93E, 0x1F3FB, 0x200D, 0x2640, 0xFE0F]),
      ("woman_scientist_medium-light_skin_tone", [0x1F469, 0x1F3FC, 0x200D, 0x1F52C]),
      ("woman_shrugging_medium-light_skin_tone", [0x1F937, 0x1F3FC, 0x200D, 0x2640, 0xFE0F])],
    [("blond-haired_man_medium-light_skin_tone", [0x1F471, 0x1F3FC, 0x200D, 0x2642, 0xFE0F]),
      ("flag_for_british_indian_ocean_territory", [0x1F1EE, 0x1F1F4]),
      ("index_pointing_up_medium-dark_skin_tone", [0x261D, 0x1F3FE]),
      ("left-facing_fist_medium-light_skin_tone", [0x1F91B, 0x1F3FC]),
      ("love-you_gesture_medium-light_skin_tone", [0x1F91F, 0x1F3FC]),
      ("man_bouncing_ball_medium-dark_skin_tone", [0x26F9, 0x1F3FE, 0x200D, 0x2642, 0xFE0F]),
      ("man_cartwheeling_medium-light_skin_tone", [0x1F938, 0x1F3FC, 0x200D, 0x2642, 0xFE0F]),
      ("man_construction_worker_light_skin_tone", [0x1F477, 0x1F3FB, 0x200D, 0x2642, 0xFE0F]),
      ("man_gesturing_no_medium-light_skin_tone", [0x1F645, 0x1F3FC, 0x200D, 0x2642, 0xFE0F]),
      ("man_gesturing_ok_medium-light_skin_tone", [0x1F646, 0x1F3FC, 0x200D, 0x2642, 0xFE0F]),
      ("man_health_worker_medium-dark_skin_tone", [0x1F468, 0x1F3FE, 0x200D, 0x2695, 0xFE0F]),
      ("man_in_suit_levitating_medium_skin_tone", [0x1F574, 0x1F3FD]),
      ("man_office_worker_medium-dark_skin_tone", [0x1F468, 0x1F3FE, 0x200D, 0x1F4BC]),
      ("man_playing_water_polo_medium_skin_tone", [0x1F93D, 0x1F3FD, 0x200D, 0x2642, 0xFE0F]),
      ("man_raising_hand_medium-light_skin_tone", [0x1F64B, 0x1F3FC, 0x200D, 0x2642, 0xFE0F]),
      ("man_technologist_medium-light_skin_tone", [0x1F468, 0x1F3FC, 0x200D, 0x1F4BB]),
      ("man_tipping_hand_medium-light_skin_tone", [0x1F481, 0x1F3FC, 0x200D, 0x2642, 0xFE0F]),
      ("palms_up_together_medium-dark_skin_tone", [0x1F932, 0x1F3FE]),
      ("person_getting_haircut_medium_skin_tone", [0x1F487, 0x1F3FD]),
      ("person_getting_massage_medium_skin_tone", [0x1F486, 0x1F3FD]),
      ("person_in_lotus_position_dark_skin_tone", [0x1F9D8, 0x1F3FF]),
      ("person_lifting_weights_medium_skin_tone", [0x1F3CB, 0x1F3FD]),
      ("person_mountain_biking_medium_skin_tone", [0x1F6B5, 0x1F3FD]),
      ("person_playing_handball_light_skin_tone", [0x1F93E, 0x1F3FB]),
      ("person_shrugging_medium-light_skin_tone", [0x1F937, 0x1F3FC]),
      ("right-facing_fist_medium-dark_skin_tone", [0x1F91C, 0x1F3FE]),
      ("sign_of_the_horns_medium-dark_skin_tone", [0x1F918, 0x1F3FE]),
      ("woman_facepalming_medium-dark_skin_tone", [0x1F926, 0x1F3FE, 0x200D, 0x2640, 0xFE0F]),
      ("woman_firefighter_medium-dark_skin_tone", [0x1F469, 0x1F3FE, 0x200D, 0x1F692]),
      ("woman_in_lotus_position_light_skin_tone", [0x1F9D8, 0x1F3FB, 0x200D, 0x2640, 0xFE0F]),
      ("woman_playing_handball_medium_skin_tone", [0x1F93E, 0x1F3FD, 0x200D, 0x2640, 0xFE0F]),
      ("woman_playing_water_polo_dark_skin_tone", [0x1F93D, 0x1F3FF, 0x200D, 0x2640, 0xFE0F]),
      ("woman_rowing_boat_medium-dark_skin_tone", [0x1F6A3, 0x1F3FE, 0x200D, 0x2640, 0xFE0F])],
    [("blond-haired_woman_medium-dark_skin_tone", [0x1F471, 0x1F3FE, 0x200D, 0x2640, 0xFE0F]),
      ("hand_with_fingers_splayed_dark_skin_tone", [0x1F590, 0x1F3FF]),
      ("index_pointing_up_medium-light_skin_tone", [0x261D, 0x1F3FC]),
      ("man_bouncing_ball_medium-light_skin_tone", [0x26F9, 0x1F3FC, 0x200D, 0x2642, 0xFE0F]),
      ("man_construction_worker_medium_skin_tone", [0x1F477, 0x1F3FD, 0x200D, 0x2642, 0xFE0F]),
      ("man_factory_worker_medium-dark_skin_tone", [0x1F468, 0x1F3FE, 0x200D, 0x1F3ED]),
      ("man_health_worker_medium-light_skin_tone", [0x1F468, 0x1F3FC, 0x200D, 0x2695, 0xFE0F]),
      ("man_in_steamy_room_medium-dark_skin_tone", [0x1F9D6, 0x1F3FE, 0x200D, 0x2642, 0xFE0F]),
      ("man_office_worker_medium-light_skin_tone", [0x1F468, 0x1F3FC, 0x200D, 0x1F4BC]),
      ("man_police_officer_medium-dark_skin_tone", [0x1F46E, 0x1F3FE, 0x200D, 0x2642, 0xFE0F]),
      ("man_wearing_turban_medium-dark_skin_tone", [0x1F473, 0x1F3FE, 0x200D, 0x2642, 0xFE0F]),
      ("palms_up_together_medium-light_skin_tone", [0x1F932, 0x1F3FC]),
      ("person_facepalming_medium-dark_skin_tone", [0x1F926, 0x1F3FE]),
      ("person_in_lotus_position_light_skin_tone", [0x1F9D8, 0x1F3FB]),
      ("person_playing_handball_medium_skin_tone", [0x1F93E, 0x1F3FD]),
      ("person_playing_water_polo_dark_skin_tone", [0x1F93D, 0x1F3FF]),
      ("person_rowing_boat_medium-dark_skin_tone", [0x1F6A3, 0x1F3FE]),
      ("person_taking_bath_medium-dark_skin_tone", [0x1F6C0, 0x1F3FE]),
      ("right-facing_fist_medium-light_skin_tone", [0x1F91C, 0x1F3FC]),
      ("sign_of_the_horns_medium-light_skin_tone", [0x1F918, 0x1F3FC]),
      ("woman_cartwheeling_medium-dark_skin_tone", [0x1F938, 0x1F3FE, 0x200D, 0x2640, 0xFE0F]),
      ("woman_construction_worker_dark_skin_tone", [0x1F477, 0x1F3FF, 0x200D, 0x2640, 0xFE0F]),
      ("woman_facepalming_medium-light_skin_tone", [0x1F926, 0x1F3FC, 0x200D, 0x2640, 0xFE0F]),
      ("woman_firefighter_medium-light_skin_tone", [0x1F469, 0x1F3FC, 0x200D, 0x1F692]),
      ("woman_gesturing_no_medium-dark_skin_tone", [0x1F645, 0x1F3FE, 0x200D, 0x2640, 0xFE0F]),
      ("woman_gesturing_ok_medium-dark_skin_tone", [0x1F646, 0x1F3FE, 0x200D, 0x2640, 0xFE0F]),
      ("woman_in_lotus_position_medium_skin_tone", [0x1F9D8, 0x1F3FD, 0x200D, 0x2640, 0xFE0F]),
      ("woman_playing_water_polo_light_skin_tone", [0x1F93D, 0x1F3FB, 0x200D, 0x2640, 0xFE0F]),
      ("woman_raising_hand_medium-dark_skin_tone", [0x1F64B, 0x1F3FE, 0x200D, 0x2640, 0xFE0F]),
      ("woman_rowing_boat_medium-light_skin_tone", [0x1F6A3, 0x1F3FC, 0x200D, 0x2640, 0xFE0F]),
      ("woman_technologist_medium-dark_skin_tone", [0x1F469, 0x1F3FE, 0x200D, 0x1F4BB]),
      ("woman_tipping_hand_medium-dark_skin_tone", [0x1F481, 0x1F3FE, 0x200D, 0x2640, 0xFE0F])]]

def codesTo55 : List (List (String × List Nat)) :=
  [[("backhand_index_pointing_up_dark_skin_tone", [0x1F446, 0x1F3FF]),
      ("blond-haired_person_medium-dark_skin_tone", [0x1F471, 0x1F3FE]),
      ("blond-haired_woman_medium-light_skin_tone", [0x1F471, 0x1F3FC, 0x200D, 0x2640, 0xFE0F]),
      ("construction_worker_medium-dark_skin_tone", [0x1F477, 0x1F3FE]),
      ("hand_with_fingers_splayed_light_skin_tone", [0x1F590, 0x1F3FB]),
      ("man_factory_worker_medium-light_skin_tone", [0x1F468, 0x1F3FC, 0x200D, 0x1F3ED]),
      ("man_getting_haircut_medium-dark_skin_tone", [0x1F487, 0x1F3FE, 0x200D, 0x2642, 0xFE0F]),
      ("man_getting_massage_medium-dark_skin_tone", [0x1F486, 0x1F3FE, 0x200D, 0x2642, 0xFE0F]),
      ("man_in_steamy_room_medium-light_skin_tone", [0x1F9D6, 0x1F3FC, 0x200D, 0x2642, 0xFE0F]),
      ("man_lifting_weights_medium-dark_skin_tone", [0x1F3CB, 0x1F3FE, 0x200D, 0x2642, 0xFE0F]),
      ("man_mountain_biking_medium-dark_skin_tone", [0x1F6B5, 0x1F3FE, 0x200D, 0x2642, 0xFE0F]),
      ("man_police_officer_medium-light_skin_tone", [0x1F46E, 0x1F3FC, 0x200D, 0x2642, 0xFE0F]),
      ("man_wearing_turban_medium-light_skin_tone", [0x1F473, 0x1F3FC, 0x200D, 0x2642, 0xFE0F]),
      ("person_cartwheeling_medium-dark_skin_tone", [0x1F938, 0x1F3FE]),
      ("person_facepalming_medium-light_skin_tone", [0x1F926, 0x1F3FC]),
      ("person_gesturing_no_medium-dark_skin_tone", [0x1F645, 0x1F3FE]),
      ("person_gesturing_ok_medium-dark_skin_tone", [0x1F646, 0x1F3FE]),
      ("person_in_lotus_position_medium_skin_tone", [0x1F9D8, 0x1F3FD]),
      ("person_playing_water_polo_light_skin_tone", [0x1F93D, 0x1F3FB]),
      ("person_raising_hand_medium-dark_skin_tone", [0x1F64B, 0x1F3FE]),
      ("person_rowing_boat_medium-light_skin_tone", [0x1F6A3, 0x1F3FC]),
      ("person_taking_bath_medium-light_skin_tone", [0x1F6C0, 0x1F3FC]),
      ("person_tipping_hand_medium-dark_skin_tone", [0x1F481, 0x1F3FE]),
      ("raised_back_of_hand_medium-dark_skin_tone", [0x1F91A, 0x1F3FE]),
      ("reversed_hand_with_middle_finger_extended", [0x1F595]),
      ("woman_bouncing_ball_medium-dark_skin_tone", [0x26F9, 0x1F3FE, 0x200D, 0x2640, 0xFE0F]),
      ("woman_cartwheeling_medium-light_skin_tone", [0x1F938, 0x1F3FC, 0x200D, 0x2640, 0xFE0F]),
      ("woman_construction_worker_light_skin_tone", [0x1F477, 0x1F3FB, 0x200D, 0x2640, 0xFE0F]),
      ("woman_gesturing_no_medium-light_skin_tone", [0x1F645, 0x1F3FC, 0x200D, 0x2640, 0xFE0F]),
      ("woman_gesturing_ok_medium-light_skin_tone", [0x1F646, 0x1F3FC, 0x200D, 0x2640, 0xFE0F]),
      ("woman_health_worker_medium-dark_skin_tone", [0x1F469, 0x1F3FE, 0x200D, 0x2695, 0xFE0F]),
      ("woman_office_worker_medium-dark_skin_tone", [0x1F469, 0x1F3FE, 0x200D, 0x1F4BC]),
      ("woman_playing_water_polo_medium_skin_tone", [0x1F93D, 0x1F3FD, 0x200D, 0x2640, 0xFE0F]),
      ("woman_raising_hand_medium-light_skin_tone", [0x1F64B, 0x1F3FC, 0x200D, 0x2640, 0xFE0F]),
      ("woman_technologist_medium-light_skin_tone", [0x1F469, 0x1F3FC, 0x200D, 0x1F4BB]),
      ("woman_tipping_hand_medium-light_skin_tone", [0x1F481, 0x1F3FC, 0x200D, 0x2640, 0xFE0F])],
    [("backhand_index_pointing_up_light_skin_tone", [0x1F446, 0x1F3FB]),
      ("blond-haired_person_medium-light_skin_tone", [0x1F471, 0x1F3FC]),
      ("construction_worker_medium-light_skin_tone", [0x1F477, 0x1F3FC]),
      ("hand_with_fingers_splayed_medium_skin_tone", [0x1F590, 0x1F3FD]),
      ("man_getting_haircut_medium-light_skin_tone", [0x1F487, 0x1F3FC, 0x200D, 0x2642, 0xFE0F]),
      ("man_getting_massage_medium-light_skin_tone", [0x1F486, 0x1F3FC, 0x200D, 0x2642, 0xFE0F]),
      ("man_lifting_weights_medium-light_skin_tone", [0x1F3CB, 0x1F3FC, 0x200D, 0x2642, 0xFE0F]),
      ("man_mountain_biking_medium-light_skin_tone", [0x1F6B5, 0x1F3FC, 0x200D, 0x2642, 0xFE0F]),
      ("man_playing_handball_medium-dark_skin_tone", [0x1F93E, 0x1F3FE, 0x200D, 0x2642, 0xFE0F]),
      ("man_with_chinese_cap_medium-dark_skin_tone", [0x1F472, 0x1F3FE]),
      ("person_bouncing_ball_medium-dark_skin_tone", [0x26F9, 0x1F3FE]),
      ("person_cartwheeling_medium-light_skin_tone", [0x1F938, 0x1F3FC]),
      ("person_gesturing_no_medium-light_skin_tone", [0x1F645, 0x1F3FC]),
      ("person_gesturing_ok_medium-light_skin_tone", [0x1F646, 0x1F3FC]),
      ("person_playing_water_polo_medium_skin_tone", [0x1F93D, 0x1F3FD]),
      ("person_raising_hand_medium-light_skin_tone", [0x1F64B, 0x1F3FC]),
      ("person_tipping_hand_medium-light_skin_tone", [0x1F481, 0x1F3FC]),
      ("raised_back_of_hand_medium-light_skin_tone", [0x1F91A, 0x1F3FC]),
      ("woman_bouncing_ball_medium-light_skin_tone", [0x26F9, 0x1F3FC, 0x200D, 0x2640, 0xFE0F]),
      ("woman_construction_worker_medium_skin_tone", [0x1F477, 0x1F3FD, 0x200D, 0x2640, 0xFE0F]),
      ("woman_factory_worker_medium-dark_skin_tone", [0x1F469, 0x1F3FE, 0x200D, 0x1F3ED]),
      ("woman_health_worker_medium-light_skin_tone", [0x1F469, 0x1F3FC, 0x200D, 0x2695, 0xFE0F]),
      ("woman_in_steamy_room_medium-dark_skin_tone", [0x1F9D6, 0x1F3FE, 0x200D, 0x2640, 0xFE0F]),
      ("woman_office_worker_medium-light_skin_tone", [0x1F469, 0x1F3FC, 0x200D, 0x1F4BC]),
      ("woman_police_officer_medium-dark_skin_tone", [0x1F46E, 0x1F3FE, 0x200D, 0x2640, 0xFE0F]),
      ("woman_wearing_turban_medium-dark_skin_tone", [0x1F473, 0x1F3FE, 0x200D, 0x2640, 0xFE0F]),
      ("woman_with_headscarf_medium-dark_skin_tone", [0x1F9D5, 0x1F3FE])],
    [("backhand_index_pointing_down_dark_skin_tone", [0x1F447, 0x1F3FF]),
      ("backhand_index_pointing_left_dark_skin_tone", [0x1F448, 0x1F3FF]),
      ("backhand_index_pointing_up_medium_skin_tone", [0x1F446, 0x1F3FD]),
      ("man_in_lotus_position_medium-dark_skin_tone", [0x1F9D8, 0x1F3FE, 0x200D, 0x2642, 0xFE0F]),
      ("man_playing_handball_medium-light_skin_tone", [0x1F93E, 0x1F3FC, 0x200D, 0x2642, 0xFE0F]),
      ("man_with_chinese_cap_medium-light_skin_tone", [0x1F472, 0x1F3FC]),
      ("person_bouncing_ball_medium-light_skin_tone", [0x26F9, 0x1F3FC]),
      ("person_in_steamy_room_medium-dark_skin_tone", [0x1F9D6, 0x1F3FE]),
      ("person_wearing_turban_medium-dark_skin_tone", [0x1F473, 0x1F3FE]),
      ("woman_factory_worker_medium-light_skin_tone", [0x1F469, 0x1F3FC, 0x200D, 0x1F3ED]),
      ("woman_getting_haircut_medium-dark_skin_tone", [0x1F487, 0x1F3FE, 0x200D, 0x2640, 0xFE0F]),
      ("woman_getting_massage_medium-dark_skin_tone", [0x1F486, 0x1F3FE, 0x200D, 0x2640, 0xFE0F]),
      ("woman_in_steamy_room_medium-light_skin_tone", [0x1F9D6, 0x1F3FC, 0x200D, 0x2640, 0xFE0F]),
      ("woman_lifting_weights_medium-dark_skin_tone", [0x1F3CB, 0x1F3FE, 0x200D, 0x2640, 0xFE0F]),
      ("woman_mountain_biking_medium-dark_skin_tone", [0x1F6B5, 0x1F3FE, 0x200D, 0x2640, 0xFE0F]),
      ("woman_police_officer_medium-light_skin_tone", [0x1F46E, 0x1F3FC, 0x200D, 0x2640, 0xFE0F]),
      ("woman_wearing_turban_medium-light_skin_tone", [0x1F473, 0x1F3FC, 0x200D, 0x2640, 0xFE0F]),
      ("woman_with_headscarf_medium-light_skin_tone", [0x1F9D5, 0x1F3FC])],
    [("backhand_index_pointing_down_light_skin_tone", [0x1F447, 0x1F3FB]),
      ("backhand_index_pointing_left_light_skin_tone", [0x1F448, 0x1F3FB]),
      ("backhand_index_pointing_right_dark_skin_tone", [0x1F449, 0x1F3FF]),
      ("man_in_lotus_position_medium-light_skin_tone", [0x1F9D8, 0x1F3FC, 0x200D, 0x2642, 0xFE0F]),
      ("man_in_suit_levitating_medium-dark_skin_tone", [0x1F574, 0x1F3FE]),
      ("man_playing_water_polo_medium-dark_skin_tone", [0x1F93D, 0x1F3FE, 0x200D, 0x2642, 0xFE0F]),
      ("person_getting_haircut_medium-dark_skin_tone", [0x1F487, 0x1F3FE]),
      ("person_getting_massage_medium-dark_skin_tone", [0x1F486, 0x1F3FE]),
      ("person_in_steamy_room_medium-light_skin_tone", [0x1F9D6, 0x1F3FC]),
      ("person_lifting_weights_medium-dark_skin_tone", [0x1F3CB, 0x1F3FE]),
      ("person_mountain_biking_medium-dark_skin_tone", [0x1F6B5, 0x1F3FE]),
      ("person_wearing_turban_medium-light_skin_tone", [0x1F473, 0x1F3FC]),
      ("woman_getting_haircut_medium-light_skin_tone", [0x1F487, 0x1F3FC, 0x200D, 0x2640, 0xFE0F]),
      ("woman_getting_massage_medium-light_skin_tone", [0x1F486, 0x1F3FC, 0x200D, 0x2640, 0xFE0F]),
      ("woman_lifting_weights_medium-light_skin_tone", [0x1F3CB, 0x1F3FC, 0x200D, 0x2640, 0xFE0F]),
      ("woman_mountain_biking_medium-light_skin_tone", [0x1F6B5, 0x1F3FC, 0x200D, 0x2640, 0xFE0F]),
      ("woman_playing_handball_medium-dark_skin_tone", [0x1F93E, 0x1F3FE, 0x200D, 0x2640, 0xFE0F])],
    [("backhand_index_pointing_down_medium_skin_tone", [0x1F447, 0x1F3FD]),
      ("backhand_index_pointing_left_medium_skin_tone", [0x1F448, 0x1F3FD]),
      ("backhand_index_pointing_right_light_skin_tone", [0x1F449, 0x1F3FB]),
      ("man_construction_worker_medium-dark_skin_tone", [0x1F477, 0x1F3FE, 0x200D, 0x2642, 0xFE0F]),
      ("man_in_suit_levitating_medium-light_skin_tone", [0x1F574, 0x1F3FC]),
      ("man_playing_water_polo_medium-light_skin_tone", [0x1F93D, 0x1F3FC, 0x200D, 0x2642, 0xFE0F]),
      ("person_getting_haircut_medium-light_skin_tone", [0x1F487, 0x1F3FC]),
      ("person_getting_massage_medium-light_skin_tone", [0x1F486, 0x1F3FC]),
      ("person_lifting_weights_medium-light_skin_tone", [0x1F3CB, 0x1F3FC]),
      ("person_mountain_biking_medium-light_skin_tone", [0x1F6B5, 0x1F3FC]),
      ("person_playing_handball_medium-dark_skin_tone", [0x1F93E, 0x1F3FE]),
      ("woman_in_lotus_position_medium-dark_skin_tone", [0x1F9D8, 0x1F3FE, 0x200D, 0x2640, 0xFE0F]),
      ("woman_playing_handball_medium-light_skin_tone",
        [0x1F93E, 0x1F3FC, 0x200D, 0x2640, 0xFE0F])],
    [("backhand_index_pointing_right_medium_skin_tone", [0x1F449, 0x1F3FD]),
      ("man_construction_worker_medium-light_skin_tone",
        [0x1F477, 0x1F3FC, 0x200D, 0x2642, 0xFE0F]),
      ("person_in_lotus_position_medium-dark_skin_tone", [0x1F9D8, 0x1F3FE]),
      ("person_playing_handball_medium-light_skin_tone", [0x1F93E, 0x1F3FC]),
      ("woman_in_lotus_position_medium-light_skin_tone",
        [0x1F9D8, 0x1F3FC, 0x200D, 0x2640, 0xFE0F]),
      ("woman_playing_water_polo_medium-dark_skin_tone",
        [0x1F93D, 0x1F3FE, 0x200D, 0x2640, 0xFE0F])],
    [("flag_for_south_georgia_&_south_sandwich_islands", [0x1F1EC, 0x1F1F8]),
      ("hand_with_fingers_splayed_medium-dark_skin_tone", [0x1F590, 0x1F3FE]),
      ("person_in_lotus_position_medium-light_skin_tone", [0x1F9D8, 0x1F3FC]),
      ("person_playing_water_polo_medium-dark_skin_tone", [0x1F93D, 0x1F3FE]),
      ("woman_construction_worker_medium-dark_skin_tone",
        [0x1F477, 0x1F3FE, 0x200D, 0x2640, 0xFE0F]),
      ("woman_playing_water_polo_medium-light_skin_tone",
        [0x1F93D, 0x1F3FC, 0x200D, 0x2640, 0xFE0F])],
    [("backhand_index_pointing_up_medium-dark_skin_tone", [0x1F446, 0x1F3FE]),
      ("hand_with_fingers_splayed_medium-light_skin_tone", [0x1F590, 0x1F3FC]),
      ("person_playing_water_polo_medium-light_skin_tone", [0x1F93D, 0x1F3FC]),
      ("woman_construction_worker_medium-light_skin_tone",
        [0x1F477, 0x1F3FC, 0x200D, 0x2640, 0xFE0F])],
    [("backhand_index_pointing_up_medium-light_skin_tone", [0x1F446, 0x1F3FC])],
    [("backhand_index_pointing_down_medium-dark_skin_tone", [0x1F447, 0x1F3FE]),
      ("backhand_index_pointing_left_medium-dark_skin_tone", [0x1F448, 0x1F3FE])],
    [("backhand_index_pointing_down_medium-light_skin_tone", [0x1F447, 0x1F3FC]),
      ("backhand_index_pointing_left_medium-light_skin_tone", [0x1F448, 0x1F3FC]),
      ("backhand_index_pointing_right_medium-dark_skin_tone", [0x1F449, 0x1F3FE])],
    [("backhand_index_pointing_right_medium-light_skin_tone", [0x1F449, 0x1F3FC])],
    [("raised_hand_with_part_between_middle_and_ring_fingers", [0x1F596])],
    [("black_left__pointing_double_triangle_with_vertical_bar", [0x23EE])],
    [("black_right__pointing_double_triangle_with_vertical_bar", [0x23ED]),
      ("black_right__pointing_triangle_with_double_vertical_bar", [0x23EF])]]

/-- The codes with what each stands for; at the place of a number, those whose names have that many
characters. -/
def codeTable : List (List (String × List Nat)) :=
  [] :: (codesTo8 ++ codesTo16 ++ codesTo24 ++ codesTo32 ++ codesTo40 ++ codesTo55)

/-! ## Replacing -/

def untilColon : List Char → Option (List Char)
  | [] => none
  | c :: cs =>
    if c = ':' then some []
    else if Text.isBlank c then none
    else (untilColon cs).map (c :: ·)

/-- A code without the ending that chooses a form, and the selector of that form. -/
def splitVariant (code : List Char) : List Char × List Char :=
  match Text.dropPrefix? "ijome-".toList code.reverse with
  | some rest => (rest.reverse, [Char.ofNat 0xFE0F])
  | none =>
    match Text.dropPrefix? "txet-".toList code.reverse with
    | some rest => (rest.reverse, [Char.ofNat 0xFE0E])
    | none => (code, [])

def emoji? (code : List Char) : Option (List Char) :=
  let (name, selector) := splitVariant code
  let name := Text.lower name
  ((codeTable.getD name.length []).find? (·.1 == String.ofList name)).map fun (_, points) =>
    points.map Char.ofNat ++ selector

def replaceEmojiFrom (skip : Nat) : List Char → List Char
  | [] => []
  | c :: cs =>
    match skip with
    | skip + 1 => replaceEmojiFrom skip cs
    | 0 =>
      if c = ':' then
        match untilColon cs with
        | some code =>
          (match emoji? code with
            | some e => e
            -- the colon that closes an unknown code opens no other one
            | none => ':' :: (code ++ [':']))
            ++ replaceEmojiFrom (code.length + 1) cs
        | none => c :: replaceEmojiFrom 0 cs
      else c :: replaceEmojiFrom 0 cs

def replaceEmoji (cs : List Char) : List Char :=
  replaceEmojiFrom 0 cs

end InlineCheck.Console
